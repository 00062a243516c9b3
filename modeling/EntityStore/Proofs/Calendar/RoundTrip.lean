import EntityStore.Calendar.Printer
import EntityStore.Calendar.Reader
import Mathlib.Algebra.Ring.Nat
import Mathlib.Tactic.Common

/-!
# Dates and instants read back

A date is read back from its text as itself, whatever its year. An instant of the years 0 to 9999 is
read back as itself, cut down to milliseconds; a leap second at the end of a minute is written as the
sixtieth second and read back as a leap second. One that comes earlier is written as the next second,
and it is read back as that (`Instant.settled`). The text of an instant is not taken for the text of a
date, although it begins with one.
-/

namespace EntityStore.Calendar

/-! ## Fields of digits -/

theorem ofDigits_padded (width n : Nat) : Text.ofDigits (padded width n) = n := by
  have zeros : ∀ count, Nat.ofDigitChars 10 (List.replicate count '0') 0 = 0 := by
    intro count
    induction count with
    | zero => rfl
    | succ count ih => rw [List.replicate_succ, Nat.ofDigitChars_cons]; exact ih
  rw [Text.ofDigits_eq, padded, Nat.ofDigitChars_append, zeros,
    Nat.ofDigitChars_toDigits (by decide) (by decide)]

theorem isDigit_padded (width n : Nat) : ∀ c ∈ padded width n, c.isDigit = true := by
  intro c hc
  rcases List.mem_append.1 hc with hc | hc
  · rw [List.eq_of_mem_replicate hc]
    decide
  · exact Text.isDigit_toDigits n c hc

theorem length_padded {width n : Nat} (positive : 0 < width) (fits : n < 10 ^ width) :
    (padded width n).length = width := by
  have short := (Nat.length_toDigits_le_iff (by decide) positive).2 fits
  rw [padded, List.length_append, List.length_replicate]
  omega

/-- A `run` of digits is read up to the first character that is none. -/
theorem digits_run {least most : Nat} {run rest : List Char}
    (all : ∀ c ∈ run, c.isDigit = true) (low : least ≤ run.length) (high : run.length ≤ most)
    (ends : ((rest.take (most - run.length)).head?.all fun c => !c.isDigit) = true) :
    digits least most (run ++ rest) = some (Text.ofDigits run, rest) := by
  have window : (run ++ rest).take most = run ++ rest.take (most - run.length) := by
    rw [List.take_append, List.take_of_length_le high]
  have whole : ((run ++ rest).take most).takeWhile Char.isDigit = run := by
    rw [window, List.takeWhile_append_of_pos all]
    cases next : rest.take (most - run.length) with
    | nil => simp
    | cons c others =>
      rw [next] at ends
      have other : c.isDigit = false := by simpa using ends
      rw [List.takeWhile_cons_of_neg (by simp [other]), List.append_nil]
  simp only [digits, whole]
  rw [if_neg (by omega), List.drop_left]

theorem digits_padded {least most width n : Nat} (low : least ≤ width) (high : width ≤ most)
    (positive : 0 < width) (fits : n < 10 ^ width) {rest : List Char}
    (ends : ((rest.take (most - width)).head?.all fun c => !c.isDigit) = true) :
    digits least most (padded width n ++ rest) = some (n, rest) := by
  have length := length_padded positive fits
  rw [← length] at low high ends
  rw [digits_run (isDigit_padded width n) low high ends, ofDigits_padded]

theorem digits_field {width n : Nat} (positive : 0 < width) (fits : n < 10 ^ width)
    (rest : List Char) : digits width width (padded width n ++ rest) = some (n, rest) :=
  digits_padded le_rfl le_rfl positive fits (by simp)

theorem fraction_padded {milli : Nat} (fits : milli < 1000) :
    fraction ('.' :: (padded 3 milli ++ ['Z'])) = some (milli * 1000000, ['Z']) := by
  have read := @digits_padded 1 9 3 milli (by decide) (by decide) (by decide) fits ['Z'] (by decide)
  have length : (padded 3 milli).length = 3 := length_padded (by decide) fits
  show (digits 1 9 (padded 3 milli ++ ['Z']) >>= _) = _
  rw [read]
  show some (milli * Nat.pow 10 (9 - ((padded 3 milli ++ ['Z']).length - 1)), _) = _
  rw [List.length_append, length]
  rfl

/-! ## Times of day -/

namespace Instant

variable (t : Instant)

/-- The instant, cut down to milliseconds. -/
def toMilli : Instant where
  second := t.second
  nano := t.nano / 1000000 * 1000000
  isInstant := by
    obtain ⟨first, last, short⟩ := t.isInstant
    exact ⟨first, last, by omega⟩

/-- The instant that the clock shows: unless `LeapEndsMinute` holds, a leap second is shown as the
second after the one that it shares its number with. -/
def settled : Instant :=
  if ends : t.LeapEndsMinute then t
  else
    { second := t.second + 1
      nano := t.nano - 1000000000
      isInstant := by
        obtain ⟨first, last, short⟩ := t.isInstant
        unfold LeapEndsMinute at ends
        unfold IsInstant secondsPerDay at *
        omega }

variable {t} in
theorem settled_eq (ends : t.LeapEndsMinute) : t.settled = t := dif_pos ends

variable {t} in
theorem settled_of_not (early : ¬ t.LeapEndsMinute) :
    t.settled.second = t.second + 1 ∧ t.settled.nano = t.nano - 1000000000 := by
  unfold settled
  rw [dif_neg early]
  exact ⟨rfl, rfl⟩

theorem settled_leapEndsMinute : t.settled.LeapEndsMinute := by
  by_cases ends : t.LeapEndsMinute
  · rw [settled_eq ends]
    exact ends
  · have short := t.isInstant.2.2
    have nano := (settled_of_not ends).2
    intro late
    omega

theorem settled_eq_iff : t.settled = t ↔ t.LeapEndsMinute := by
  refine ⟨fun same => ?_, settled_eq⟩
  rw [← same]
  exact t.settled_leapEndsMinute

theorem secondOfDay_lt : t.secondOfDay < 86400 := by
  unfold secondOfDay secondsPerDay
  omega

theorem hour_lt : t.hour < 24 := by
  have := t.secondOfDay_lt
  unfold hour
  omega

theorem minute_lt : t.minute < 60 := by
  unfold minute
  omega

theorem milli_lt : t.milli < 1000 := by
  unfold milli
  omega

theorem secondOfMinute_le : t.secondOfMinute ≤ 60 := by
  unfold secondOfMinute
  split <;> omega

/-! ### Leap seconds at the end of a minute -/

section

variable {t} (ends : t.LeapEndsMinute)

include ends

theorem secondOfMinute_eq : t.secondOfMinute =
    if t.nano < 1000000000 then t.secondOfDay % 60 else 60 := by
  unfold secondOfMinute
  split
  · rfl
  · rename_i late
    have leap := ends (by omega)
    unfold secondOfDay secondsPerDay
    omega

theorem toMilli_leapEndsMinute : t.toMilli.LeapEndsMinute := by
  intro late
  have nano : t.toMilli.nano = t.nano / 1000000 * 1000000 := rfl
  exact ends (by omega)

theorem leap_iff : t.secondOfMinute = 60 ↔ 1000000000 ≤ t.nano := by
  rw [secondOfMinute_eq ends]
  split <;> omega

/-- The time of day that is written of `t`, on its date, is that of `t.toMilli`. -/
theorem at?_date : t.date.at? ⟨t.hour, t.minute, t.secondOfMinute, t.milli * 1000000, 0⟩ =
    some t.toMilli := by
  have shown : ¬ (23 < t.hour ∨ 59 < t.minute ∨ 60 < t.secondOfMinute) := by
    have hour := t.hour_lt
    have minute := t.minute_lt
    have second := t.secondOfMinute_le
    omega
  have leap := leap_iff ends
  have clock : (if t.secondOfMinute = 60 then 59 else t.secondOfMinute) + 60 * t.minute +
      3600 * t.hour = t.secondOfDay := by
    have minutes : t.minute = t.secondOfDay / 60 % 60 := rfl
    have hours : t.hour = t.secondOfDay / 3600 := rfl
    have second := secondOfMinute_eq ends
    by_cases late : 1000000000 ≤ t.nano
    · have last : t.secondOfDay % 60 = 59 := by
        have last := ends late
        unfold secondOfDay secondsPerDay
        omega
      rw [if_pos (leap.2 late)]
      omega
    · rw [if_neg (mt leap.1 late)]
      rw [if_pos (by omega)] at second
      omega
  have nano : t.milli * 1000000 + (if t.secondOfMinute = 60 then 1000000000 else 0) =
      t.nano / 1000000 * 1000000 := by
    have milli : t.milli = t.nano % 1000000000 / 1000000 := rfl
    have short := t.isInstant.2.2
    by_cases late : 1000000000 ≤ t.nano
    · rw [if_pos (leap.2 late)]
      omega
    · rw [if_neg (mt leap.1 late)]
      omega
  have day : t.date.dayNumber * secondsPerDay + (t.secondOfDay : Int) - 0 = t.second := by
    have number : t.date.dayNumber = t.second / secondsPerDay := Date.dayNumber_ofDayNumber _ _ _
    rw [number]
    unfold secondOfDay secondsPerDay
    omega
  unfold Date.at?
  rw [if_neg shown]
  simp only [clock, nano, day]
  exact (dif_pos t.toMilli.isInstant).trans (if_pos (toMilli_leapEndsMinute ends))

end

/-! ### Leap seconds elsewhere -/

theorem date_settled : t.settled.date = t.date := by
  by_cases ends : t.LeapEndsMinute
  · rw [settled_eq ends]
  · have day : t.settled.second / secondsPerDay = t.second / secondsPerDay := by
      rw [(settled_of_not ends).1]
      unfold LeapEndsMinute at ends
      unfold secondsPerDay
      omega
    unfold date
    simp only [day]

/-- The clock shows the same time for `t` and `t.settled`. -/
theorem clock_settled : t.settled.hour = t.hour ∧ t.settled.minute = t.minute ∧
    t.settled.secondOfMinute = t.secondOfMinute ∧ t.settled.milli = t.milli := by
  by_cases ends : t.LeapEndsMinute
  · rw [settled_eq ends]
    exact ⟨rfl, rfl, rfl, rfl⟩
  · have short := t.isInstant.2.2
    obtain ⟨second, nano⟩ := settled_of_not ends
    unfold LeapEndsMinute at ends
    have late : ¬ t.nano < 1000000000 := by omega
    have begun : t.nano - 1000000000 < 1000000000 := by omega
    unfold hour minute secondOfMinute milli secondOfDay secondsPerDay
    rw [second, nano, if_neg late, if_pos begun]
    omega

theorem chars_settled : t.settled.chars = t.chars := by
  obtain ⟨hour, minute, second, milli⟩ := t.clock_settled
  unfold chars
  rw [t.date_settled, hour, minute, second, milli]

end Instant

/-! ## Texts -/

theorem Date.ofParts?_parts (d : Date) : Date.ofParts? d.year d.month d.day = some d :=
  dif_pos d.isDate

theorem Date.month_lt (d : Date) : d.month < 10 ^ 2 := by
  have last := d.isDate.2.2.2.1
  omega

theorem Date.day_lt (d : Date) : d.day < 10 ^ 2 := by
  have last := d.isDate.2.2.2.2.2
  unfold daysInMonth at last
  split at last <;> [split at last; split at last] <;> omega

theorem bind_read {α β : Type} {x : Option α} {f : α → Option β} {a : α} (read : x = some a) :
    (x >>= f) = f a := by
  rw [read]
  rfl

theorem expect_self (c : Char) (rest : List Char) : expect c (c :: rest) = some ((), rest) :=
  if_pos rfl

theorem separator_letter (rest : List Char) : separator ('T' :: rest) = some ((), rest) := rfl

theorem shift_letter : shift ['Z'] = some (0, []) := rfl

/-! ### The plain form of a date -/

theorem not_isBlank_of_isDigit {c : Char} (h : c.isDigit = true) : Text.isBlank c = false := by
  have low : 48 ≤ c.toNat := by
    simp only [Char.isDigit, ge_iff_le, Bool.and_eq_true, decide_eq_true_eq] at h
    exact UInt32.le_iff_toNat_le.1 h.1
  have high : c.toNat ≤ 57 := by
    simp only [Char.isDigit, ge_iff_le, Bool.and_eq_true, decide_eq_true_eq] at h
    exact UInt32.le_iff_toNat_le.1 h.2
  simp only [Text.isBlank, Text.blankRanges, List.any_eq_false]
  intro range hrange
  simp only [List.mem_cons, List.not_mem_nil, or_false] at hrange
  rcases hrange with rfl | rfl | rfl | rfl | rfl | rfl | rfl | rfl | rfl | rfl <;> simp <;> omega

theorem padded_eq_cons (width n : Nat) :
    ∃ c others, padded width n = c :: others ∧ c.isDigit = true := by
  have digits := isDigit_padded width n
  cases run : padded width n with
  | nil => exact absurd (List.append_eq_nil_iff.1 run).2 Nat.toDigits_ne_nil
  | cons c others =>
    rw [run] at digits
    exact ⟨c, others, rfl, digits c List.mem_cons_self⟩

/-- There are no blanks to skip before digits. -/
theorem trimStart_padded (width n : Nat) (rest : List Char) :
    Text.trimStart (padded width n ++ rest) = padded width n ++ rest := by
  obtain ⟨c, others, first, digit⟩ := padded_eq_cons width n
  rw [first, List.cons_append, Text.trimStart,
    List.dropWhile_cons_of_neg (by simp [not_isBlank_of_isDigit digit])]

theorem plainField_padded {n : Nat} (fits : n < 10 ^ 2) (rest : List Char) :
    plainField (padded 2 n ++ rest) = some (n, rest) := by
  rw [plainField, trimStart_padded]
  exact digits_padded (by decide) le_rfl (by decide) fits (by simp)

/-- After its sign a year may have any number of digits. -/
theorem digits_signed (n : Nat) (rest : List Char) :
    digits 1 (padded 4 n ++ '-' :: rest).length (padded 4 n ++ '-' :: rest) =
      some (n, '-' :: rest) := by
  have some : 1 ≤ (padded 4 n).length := by
    have digits := List.length_pos_iff.2 (Nat.toDigits_ne_nil (b := 10) (n := n))
    rw [padded, List.length_append]
    omega
  have fits : (padded 4 n).length ≤ (padded 4 n ++ '-' :: rest).length := by
    rw [List.length_append]
    omega
  have ends : ((('-' :: rest).take ((padded 4 n ++ '-' :: rest).length - (padded 4 n).length)).head?.all
      fun c => !c.isDigit) = true := by
    rw [List.length_append, Nat.add_sub_cancel_left, List.take_length]
    rfl
  rw [digits_run (isDigit_padded 4 n) some fits ends, ofDigits_padded]

theorem plainYear_yearChars (year : Int) (rest : List Char) :
    plainYear (yearChars year ++ '-' :: rest) = some (year, '-' :: rest) := by
  unfold yearChars
  by_cases short : 0 ≤ year ∧ year ≤ 9999
  · have fits : year.toNat < 10 ^ 4 := by omega
    have restored : (year.toNat : Int) = year := by omega
    have read := @digits_padded 1 4 4 _ (by decide) le_rfl (by decide) fits ('-' :: rest) (by simp)
    obtain ⟨c, others, first, digit⟩ := padded_eq_cons 4 year.toNat
    rw [if_pos short, plainYear, trimStart_padded]
    rw [first, List.cons_append] at read ⊢
    split
    · rename_i next
      obtain rfl := (List.cons.inj next).1
      cases digit
    · rename_i next
      obtain rfl := (List.cons.inj next).1
      cases digit
    · simp only [read, Option.map_some, restored]
  · have read := digits_signed year.natAbs rest
    rw [if_neg short, List.cons_append]
    by_cases negative : year < 0
    · have restored : -(year.natAbs : Int) = year := by omega
      rw [if_pos negative]
      show (digits 1 (padded 4 year.natAbs ++ '-' :: rest).length _).map _ = _
      simp only [read, Option.map_some, restored]
    · have restored : (year.natAbs : Int) = year := by omega
      rw [if_neg negative]
      show (digits 1 (padded 4 year.natAbs ++ '-' :: rest).length _).map _ = _
      simp only [read, Option.map_some, restored]

/-- A date is read off the front of a text, whatever `rest` follows it. -/
theorem plainDate_chars (d : Date) (rest : List Char) :
    plainDate (d.chars ++ rest) = some (d, rest) := by
  unfold plainDate Date.chars
  simp only [List.append_assoc, List.cons_append]
  rw [bind_read (plainYear_yearChars _ _), bind_read (expect_self _ _),
    bind_read (plainField_padded d.month_lt _), bind_read (expect_self _ _),
    bind_read (plainField_padded d.day_lt _), bind_read (Date.ofParts?_parts d)]
  rfl

theorem Date.read?_chars (d : Date) : Date.read? d.chars = some d := by
  have read := plainDate_chars d []
  rw [List.append_nil] at read
  unfold Date.read?
  rw [bind_read read]
  rfl

/-- After the date in the text of an instant there is more. -/
theorem Date.read?_instant (t : Instant) : Date.read? t.chars = none := by
  unfold Date.read? Instant.chars
  rw [bind_read (plainDate_chars t.date _)]
  rfl

/-- An instant of the years 0 to 9999 is read back to the millisecond if `LeapEndsMinute` holds of
it. -/
theorem Instant.read?_settled {t : Instant} (ends : t.LeapEndsMinute) (first : 0 ≤ t.date.year)
    (last : t.date.year ≤ 9999) : Instant.read? t.chars = some t.toMilli := by
  have year : yearChars t.date.year = padded 4 t.date.year.toNat := if_pos ⟨first, last⟩
  have yearFits : t.date.year.toNat < 10 ^ 4 := by omega
  have restored : (t.date.year.toNat : Int) = t.date.year := by omega
  have interchange : Instant.readInterchange? t.chars = some t.toMilli := by
    have yearRead := @digits_field 4 _ (by decide) yearFits
    have monthRead := @digits_field 2 _ (by decide) t.date.month_lt
    have dayRead := @digits_field 2 _ (by decide) t.date.day_lt
    have hourRead := @digits_field 2 _ (by decide) (Nat.lt_trans t.hour_lt (by decide))
    have minuteRead := @digits_field 2 _ (by decide) (Nat.lt_trans t.minute_lt (by decide))
    have secondRead := @digits_field 2 _ (by decide) (Nat.lt_of_le_of_lt t.secondOfMinute_le (by decide))
    have fractionRead := fraction_padded t.milli_lt
    unfold Instant.readInterchange? Instant.chars Date.chars
    simp only [year, List.append_assoc, List.cons_append]
    rw [bind_read (yearRead _), bind_read (expect_self _ _), bind_read (monthRead _),
      bind_read (expect_self _ _), bind_read (dayRead _), bind_read (separator_letter _),
      bind_read (hourRead _), bind_read (expect_self _ _), bind_read (minuteRead _),
      bind_read (expect_self _ _), bind_read (secondRead _), bind_read fractionRead,
      bind_read shift_letter, restored, bind_read (Date.ofParts?_parts _), bind_read (at?_date ends)]
    rfl
  unfold Instant.read?
  rw [interchange]
  rfl

/-- An instant of the years 0 to 9999 is read back as `settled`, to the millisecond. -/
theorem Instant.read?_chars (t : Instant) (first : 0 ≤ t.date.year) (last : t.date.year ≤ 9999) :
    Instant.read? t.chars = some t.settled.toMilli := by
  rw [← t.date_settled] at first last
  rw [← t.chars_settled]
  exact read?_settled t.settled_leapEndsMinute first last

end EntityStore.Calendar
