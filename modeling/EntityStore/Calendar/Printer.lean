import EntityStore.Calendar.Instant

/-!
# Writing dates and instants

A date is written `2024-02-29`. An instant is written in Universal Time, cut down to milliseconds,
as in `2024-02-29T23:59:60.250Z`. A year beyond four digits or before year 0 has a sign.
-/

namespace EntityStore.Calendar

/-- The digits of `n`, with zeros before them up to the given `width`. -/
def padded (width n : Nat) : List Char :=
  List.replicate (width - (Nat.toDigits 10 n).length) '0' ++ Nat.toDigits 10 n

/-- A year in four or more digits, with a sign unless it has just four. -/
def yearChars (year : Int) : List Char :=
  if 0 ≤ year ∧ year ≤ 9999 then padded 4 year.toNat
  else (if year < 0 then '-' else '+') :: padded 4 year.natAbs

def Date.chars (d : Date) : List Char :=
  yearChars d.year ++ '-' :: (padded 2 d.month ++ '-' :: padded 2 d.day)

def Instant.chars (t : Instant) : List Char :=
  t.date.chars ++ 'T' :: (padded 2 t.hour ++ ':' :: (padded 2 t.minute ++
    ':' :: (padded 2 t.secondOfMinute ++ '.' :: (padded 3 t.milli ++ ['Z']))))

def Date.text (d : Date) : String := String.ofList d.chars

def Instant.text (t : Instant) : String := String.ofList t.chars

end EntityStore.Calendar
