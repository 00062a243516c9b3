import EntityStore.Proofs.Calendar.Order
import EntityStore.Proofs.Storage.RoundTrip

/-!
# Stored dates and instants in order

The texts in which a column stores dates and instants of the years 0 to 9999 have fields of fixed
width, the most important first. So they sort byte by byte as the dates and instants follow one
another in time, instants as the clock shows them; only instants of the same millisecond are stored
as the same text.
-/

namespace EntityStore

/-- The bytes of `s` in UTF-8. -/
def bytesOf (s : String) : List UInt8 := s.toUTF8.data.toList

namespace Calendar

/-! ## Fields of fixed width -/

/-- Fields of fixed width, each with the characters that come after it. -/
def row : List (Nat × List Char) → List Nat → List Char
  | (width, mark) :: shape, n :: ns => padded width n ++ (mark ++ row shape ns)
  | _, _ => []

/-- Numbers fit the widths of fields. -/
def Fills : List (Nat × List Char) → List Nat → Prop :=
  List.Forall₂ fun field n => 0 < field.1 ∧ n < 10 ^ field.1

def dateShape : List (Nat × List Char) := [(4, ['-']), (2, ['-']), (2, [])]

def instantShape : List (Nat × List Char) :=
  [(4, ['-']), (2, ['-']), (2, ['T']), (2, [':']), (2, [':']), (2, ['.']), (3, ['Z'])]

theorem Date.fills {d : Date} (last : d.year ≤ 9999) : Fills dateShape d.parts := by
  have year : d.year.toNat < 10 ^ 4 := by omega
  exact .cons ⟨by decide, year⟩ <| .cons ⟨by decide, d.month_lt⟩ <|
    .cons ⟨by decide, d.day_lt⟩ .nil

theorem Instant.fills {t : Instant} (last : t.date.year ≤ 9999) : Fills instantShape t.parts := by
  have year : t.date.year.toNat < 10 ^ 4 := by omega
  have hour : t.hour < 10 ^ 2 := Nat.lt_trans t.hour_lt (by decide)
  have minute : t.minute < 10 ^ 2 := Nat.lt_trans t.minute_lt (by decide)
  have second : t.secondOfMinute < 10 ^ 2 := Nat.lt_of_le_of_lt t.secondOfMinute_le (by decide)
  exact .cons ⟨by decide, year⟩ <| .cons ⟨by decide, t.date.month_lt⟩ <|
    .cons ⟨by decide, t.date.day_lt⟩ <| .cons ⟨by decide, hour⟩ <| .cons ⟨by decide, minute⟩ <|
    .cons ⟨by decide, second⟩ <| .cons ⟨by decide, t.milli_lt⟩ .nil

end Calendar

/-! ## Bytes -/

namespace Visits

/-- The second after the leap second. -/
def newYear : Calendar.Instant := ⟨1483228800, 0, by decide⟩

/-- A leap second at 23:56:04, nine tenths after its beginning. -/
def late : Calendar.Instant := ⟨1483228564, 1900000000, by decide⟩

/-- A tenth of a second after 23:56:05. -/
def next : Calendar.Instant := ⟨1483228565, 100000000, by decide⟩

end Visits

end EntityStore
