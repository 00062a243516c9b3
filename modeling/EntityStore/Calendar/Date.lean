/-!
# Calendar dates

Dates of the Gregorian calendar, extended to years before its introduction, with a year zero. A date
corresponds to a day number, counted from 1 January 1970.

The conversion counts years from 1 March, so that a leap day is the last day of its year. Main
statement: `Date.dayNumber_ofDayNumber`, a day number read as a date gives the same day number back.
-/

namespace EntityStore.Calendar

def minYear : Int := -262143

def maxYear : Int := 262142

/-- Every fourth year has a leap day, but of the full centuries only every fourth. -/
def IsLeapYear (year : Int) : Prop := year % 4 = 0 ∧ (year % 100 ≠ 0 ∨ year % 400 = 0)

instance (year : Int) : Decidable (IsLeapYear year) := by unfold IsLeapYear; infer_instance

/-- The number of days of `month`, counted from 1. -/
def daysInMonth (year : Int) (month : Nat) : Nat :=
  if month = 2 then (if IsLeapYear year then 29 else 28)
  else if month = 4 ∨ month = 6 ∨ month = 9 ∨ month = 11 then 30
  else 31

/-- Whether `year`, `month` and `day` name a date of the calendar. -/
def IsDate (year : Int) (month day : Nat) : Prop :=
  minYear ≤ year ∧ year ≤ maxYear ∧ 1 ≤ month ∧ month ≤ 12 ∧ 1 ≤ day ∧ day ≤ daysInMonth year month

instance (year : Int) (month day : Nat) : Decidable (IsDate year month day) := by
  unfold IsDate; infer_instance

/-- A date of the calendar, in which year 0 stands before year 1. -/
structure Date where
  year : Int
  month : Nat
  day : Nat
  isDate : IsDate year month day
  deriving DecidableEq

/-- The date with the given parts, if `IsDate` holds of them. -/
def Date.ofParts? (year : Int) (month day : Nat) : Option Date :=
  if h : IsDate year month day then some ⟨year, month, day, h⟩ else none

/-! ## Day numbers -/

/-- The days from 1 March of year 0 to 1 March of `year`. -/
def marchStart (year : Int) : Int := 365 * year + year / 4 - year / 100 + year / 400

/-- The years that have begun on 1 March, `days` days after 1 March of year 0. Whole cycles of 400
years are split off first, then centuries, then groups of four years. -/
def marchYear (days : Int) : Int :=
  let inCycle := days % 146097
  let century := min 3 (inCycle / 36524)
  let inCentury := inCycle - century * 36524
  let inGroup := inCentury % 1461
  400 * (days / 146097) + 100 * century + 4 * (inCentury / 1461) + min 3 (inGroup / 365)

/-- The parts into which `marchYear` splits a number of days: cycles of 400 years, centuries, groups
of four years, years, and the days left over in the last group. -/
theorem exists_marchYear_parts (days : Int) : ∃ cycle century group year rest : Int,
    marchYear days = 400 * cycle + 100 * century + 4 * group + year ∧
    days = 146097 * cycle + 36524 * century + 1461 * group + rest ∧
    0 ≤ century ∧ century ≤ 3 ∧ 0 ≤ group ∧ group ≤ 24 ∧ 0 ≤ year ∧ year ≤ 3 ∧
    365 * year ≤ rest ∧ (year < 3 → rest < 365 * (year + 1)) ∧ rest ≤ 1460 ∧
    (group = 24 → century < 3 → rest ≤ 1459) := by
  refine ⟨days / 146097, min 3 (days % 146097 / 36524),
    (days % 146097 - min 3 (days % 146097 / 36524) * 36524) / 1461,
    min 3 ((days % 146097 - min 3 (days % 146097 / 36524) * 36524) % 1461 / 365),
    (days % 146097 - min 3 (days % 146097 / 36524) * 36524) % 1461, rfl, ?_⟩
  have inCycle : 0 ≤ days % 146097 ∧ days % 146097 ≤ 146096 ∧
      days = 146097 * (days / 146097) + days % 146097 := by omega
  generalize days % 146097 = r at inCycle
  generalize days / 146097 = cycle at inCycle
  obtain ⟨century, hcentury⟩ : ∃ c, c = min 3 (r / 36524) := ⟨_, rfl⟩
  rw [← hcentury]
  have inCentury : 0 ≤ century ∧ century ≤ 3 ∧ 0 ≤ r - century * 36524 ∧
      r - century * 36524 ≤ 36524 ∧ (century < 3 → r - century * 36524 ≤ 36523) := by omega
  obtain ⟨rc, hrc⟩ : ∃ rc, rc = r - century * 36524 := ⟨_, rfl⟩
  rw [← hrc]
  rw [← hrc] at inCentury
  have inGroup : 0 ≤ rc / 1461 ∧ rc / 1461 ≤ 24 ∧ 0 ≤ rc % 1461 ∧ rc % 1461 ≤ 1460 ∧
      rc = 1461 * (rc / 1461) + rc % 1461 := by omega
  generalize rc / 1461 = group at *
  generalize rc % 1461 = rest at *
  omega

theorem marchStart_le (days : Int) : marchStart (marchYear days) ≤ days := by
  obtain ⟨cycle, century, group, year, rest, hyear, hdays, h⟩ := exists_marchYear_parts days
  have h4 : marchYear days / 4 = 100 * cycle + 25 * century + group := by omega
  have h100 : marchYear days / 100 = 4 * cycle + century := by omega
  have h400 : marchYear days / 400 = cycle := by omega
  rw [marchStart, h4, h100, h400]
  omega

theorem lt_marchStart (days : Int) : days < marchStart (marchYear days + 1) := by
  obtain ⟨cycle, century, group, year, rest, hyear, hdays, h⟩ := exists_marchYear_parts days
  by_cases h3 : year = 3
  · by_cases h24 : group = 24
    · have h4 : (marchYear days + 1) / 4 = 100 * cycle + 25 * century + 25 := by omega
      have h100 : (marchYear days + 1) / 100 = 4 * cycle + century + 1 := by omega
      by_cases hc : century = 3
      · have h400 : (marchYear days + 1) / 400 = cycle + 1 := by omega
        rw [marchStart, h4, h100, h400]
        omega
      · have h400 : (marchYear days + 1) / 400 = cycle := by omega
        rw [marchStart, h4, h100, h400]
        omega
    · have h4 : (marchYear days + 1) / 4 = 100 * cycle + 25 * century + group + 1 := by omega
      have h100 : (marchYear days + 1) / 100 = 4 * cycle + century := by omega
      have h400 : (marchYear days + 1) / 400 = cycle := by omega
      rw [marchStart, h4, h100, h400]
      omega
  · have h4 : (marchYear days + 1) / 4 = 100 * cycle + 25 * century + group := by omega
    have h100 : (marchYear days + 1) / 100 = 4 * cycle + century := by omega
    have h400 : (marchYear days + 1) / 400 = cycle := by omega
    rw [marchStart, h4, h100, h400]
    omega

/-- A year that begins on 1 March has 366 days if a leap day ends it, and 365 otherwise. -/
theorem marchStart_succ (year : Int) :
    marchStart (year + 1) = marchStart year + (if IsLeapYear (year + 1) then 366 else 365) := by
  have h4 : (year + 1) / 4 = year / 4 + (if (year + 1) % 4 = 0 then 1 else 0) := by
    split <;> omega
  have h100 : (year + 1) / 100 = year / 100 + (if (year + 1) % 100 = 0 then 1 else 0) := by
    split <;> omega
  have h400 : (year + 1) / 400 = year / 400 + (if (year + 1) % 400 = 0 then 1 else 0) := by
    split <;> omega
  rw [marchStart, h4, h100, h400, marchStart]
  by_cases leap : IsLeapYear (year + 1)
  · rw [if_pos leap]
    simp only [IsLeapYear] at leap
    split <;> split <;> split <;> omega
  · rw [if_neg leap]
    simp only [IsLeapYear] at leap
    split <;> split <;> split <;> omega

/-- The month, counted from March, of a `day` counted from 1 March. -/
def marchMonth (day : Int) : Int := (5 * day + 2) / 153

/-- The calendar year of a `day` counted from 1 March of `year`. -/
def calendarYear (year day : Int) : Int := if marchMonth day < 10 then year else year + 1

/-- The calendar month of a `day` counted from 1 March. -/
def calendarMonth (day : Int) : Nat :=
  (if marchMonth day < 10 then marchMonth day + 3 else marchMonth day - 9).toNat

/-- The day of the `calendarMonth` of a `day` counted from 1 March. -/
def calendarDay (day : Int) : Nat := (day - (153 * marchMonth day + 2) / 5 + 1).toNat

/-- The month and the day of the month as numbers from which `day` can be computed. -/
theorem calendar_parts (day : Int) (low : 0 ≤ day) (high : day ≤ 365) :
    0 ≤ marchMonth day ∧ marchMonth day ≤ 11 ∧
    (calendarMonth day : Int) = (if marchMonth day < 10 then marchMonth day + 3
      else marchMonth day - 9) ∧
    (calendarDay day : Int) = day - (153 * marchMonth day + 2) / 5 + 1 ∧
    153 * marchMonth day ≤ 5 * day + 2 ∧ 5 * day + 2 < 153 * marchMonth day + 153 := by
  have hm : marchMonth day = (5 * day + 2) / 153 := rfl
  simp only [calendarMonth, calendarDay]
  generalize marchMonth day = m at *
  refine ⟨by omega, by omega, ?_, by omega, by omega, by omega⟩
  split <;> omega

/-- A `day` counted from 1 March of `year` names a date, if that year has so many days. -/
theorem isDate_calendar (year day : Int) (low : 0 ≤ day) (high : day ≤ 365)
    (leap : day = 365 → IsLeapYear (year + 1)) (first : minYear ≤ calendarYear year day)
    (last : calendarYear year day ≤ maxYear) :
    IsDate (calendarYear year day) (calendarMonth day) (calendarDay day) := by
  refine ⟨first, last, ?_⟩
  obtain ⟨h0, h11, hmonth, hday, hlow, hhigh⟩ := calendar_parts day low high
  have hyear : marchMonth day = 11 → calendarYear year day = year + 1 := by
    intro h
    simp [calendarYear, h]
  clear first last
  generalize calendarMonth day = month at *
  generalize calendarDay day = dom at *
  generalize calendarYear year day = calendar at *
  generalize marchMonth day = m at *
  have hbounds : 1 ≤ month ∧ month ≤ 12 := by split at hmonth <;> omega
  refine ⟨hbounds.1, hbounds.2, by omega, ?_⟩
  unfold daysInMonth
  split
  · have hm : m = 11 := by split at hmonth <;> omega
    rw [hyear hm]
    split
    · omega
    · rename_i noLeap
      have : day ≠ 365 := fun h => noLeap (leap h)
      omega
  · split at hmonth <;> split <;> omega

/-- The `numberOfParts` of 1 March of year 0. -/
def marchEpoch : Int := -719468

/-- The number of days from 1 January 1970 to the date with the given parts; negative before it. -/
def numberOfParts (year : Int) (month day : Nat) : Int :=
  marchStart (if 2 < month then year else year - 1) +
    (153 * (if 2 < month then (month : Int) - 3 else (month : Int) + 9) + 2) / 5 + (day : Int) - 1 +
    marchEpoch

/-- The number of days from 1 January 1970 to `d`; negative before it. -/
def Date.dayNumber (d : Date) : Int := numberOfParts d.year d.month d.day

/-- The year, begun on 1 March, of a day `number`. -/
def yearOfNumber (number : Int) : Int := marchYear (number - marchEpoch)

/-- The day, counted from 1 March of `yearOfNumber`, of a day `number`. -/
def dayOfNumber (number : Int) : Int := number - marchEpoch - marchStart (yearOfNumber number)

/-- The `dayNumber` of the first date of the calendar. -/
def minDayNumber : Int := -96465292

/-- The `dayNumber` of the last date of the calendar. -/
def maxDayNumber : Int := 95026236

theorem dayOfNumber_bounds (number : Int) : 0 ≤ dayOfNumber number ∧ dayOfNumber number ≤ 365 ∧
    (dayOfNumber number = 365 → IsLeapYear (yearOfNumber number + 1)) := by
  have low := marchStart_le (number - marchEpoch)
  have high := lt_marchStart (number - marchEpoch)
  have length := marchStart_succ (yearOfNumber number)
  change marchStart (yearOfNumber number) ≤ _ at low
  change _ < marchStart (yearOfNumber number + 1) at high
  simp only [dayOfNumber]
  split at length
  · rename_i leap
    exact ⟨by omega, by omega, fun _ => leap⟩
  · exact ⟨by omega, by omega, by omega⟩

theorem calendarYear_bounds (number : Int) (low : minDayNumber ≤ number)
    (high : number ≤ maxDayNumber) :
    minYear ≤ calendarYear (yearOfNumber number) (dayOfNumber number) ∧
    calendarYear (yearOfNumber number) (dayOfNumber number) ≤ maxYear := by
  obtain ⟨h0, h365, _⟩ := dayOfNumber_bounds number
  obtain ⟨_, _, _, _, hlow, hhigh⟩ := calendar_parts _ h0 h365
  have hnumber : dayOfNumber number = number - marchEpoch - marchStart (yearOfNumber number) := rfl
  rw [calendarYear]
  simp only [minYear, maxYear]
  simp only [marchStart, marchEpoch, minDayNumber, maxDayNumber] at hnumber low high
  generalize marchMonth (dayOfNumber number) = m at *
  generalize dayOfNumber number = d at *
  generalize yearOfNumber number = y at *
  by_cases hfirst : y = -262144
  · subst hfirst
    split <;> omega
  · by_cases hlast : y = 262142
    · subst hlast
      split <;> omega
    · split <;> omega

/-- The date of a day `number` of the calendar. -/
def Date.ofDayNumber (number : Int) (low : minDayNumber ≤ number) (high : number ≤ maxDayNumber) :
    Date where
  year := calendarYear (yearOfNumber number) (dayOfNumber number)
  month := calendarMonth (dayOfNumber number)
  day := calendarDay (dayOfNumber number)
  isDate :=
    isDate_calendar _ _ (dayOfNumber_bounds number).1 (dayOfNumber_bounds number).2.1
      (dayOfNumber_bounds number).2.2 (calendarYear_bounds number low high).1
      (calendarYear_bounds number low high).2

theorem Date.dayNumber_ofDayNumber (number : Int) (low : minDayNumber ≤ number)
    (high : number ≤ maxDayNumber) : (Date.ofDayNumber number low high).dayNumber = number := by
  obtain ⟨h0, h365, _⟩ := dayOfNumber_bounds number
  obtain ⟨hm0, hm11, hmonth, hday, _, _⟩ := calendar_parts _ h0 h365
  have hnumber : dayOfNumber number = number - marchEpoch - marchStart (yearOfNumber number) := rfl
  change numberOfParts (calendarYear _ _) (calendarMonth _) (calendarDay _) = number
  rw [numberOfParts, calendarYear, hday]
  generalize calendarMonth (dayOfNumber number) = month at *
  generalize marchMonth (dayOfNumber number) = m at *
  generalize dayOfNumber number = d at *
  generalize yearOfNumber number = y at *
  by_cases hm : m < 10
  · rw [if_pos hm] at hmonth
    rw [if_pos (by omega), if_pos hm, if_pos (by omega), hmonth, Int.add_sub_cancel]
    omega
  · rw [if_neg hm] at hmonth
    rw [if_neg (by omega), if_neg hm, if_neg (by omega), hmonth, Int.add_sub_cancel,
      Int.sub_add_cancel]
    omega

end EntityStore.Calendar
