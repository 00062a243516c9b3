import EntityStore.Field
import EntityStore.Proofs.Json.Length
import EntityStore.Proofs.Storage.RoundTrip

/-!
# Fields of JSON columns

A column of JSON values stores a text as it is: it is taken as JSON text, so that a caller who has
such a text need not read it first. What is handed out for it is therefore the value that it means,
and the text itself only if it is none. Numbers and truth values are written as JSON and are handed
out as JSON values.
-/

namespace EntityStore

/-- What `c` hands out for `v` once it has stored it. -/
def Column.returned (c : Column) (v : Value) : Value :=
  EntityStore.ofStorage (some c) (EntityStore.toStorage (some c) v)

/-- What is written as JSON is handed out as JSON. -/
theorem ColumnType.asJson_restored {v : Value} (fits : Json.Fits Json.maxDepth v.asJson)
    (written : json.toStorage v = .text v.asJson.compact) :
    json.ofStorage (json.toStorage v) = .json v.asJson := by
  rw [written]
  exact ColumnType.json_restored fits

theorem Json.fits_int64 (i : Int64) (room : Nat) : Json.Fits room (.int i.toInt) := by
  have low := i.le_toInt
  have high := i.toInt_lt
  exact .int room (by unfold Text.int64Min; omega) (by unfold Text.count64Max; omega)

section

variable {c : Column} (type : c.type = .json) (plain : c.transformers = [])

include type plain

namespace Column

theorem returned_json {j : Json} (fits : Json.Fits Json.maxDepth j) :
    c.returned (.json j) = .json j := json_round_trip type plain fits

theorem returned_text (s : String) :
    c.returned (.text s) = ((Json.read? s).map Value.json).getD (.text s) := by
  rw [returned, ofStorage_toStorage plain, type]
  rfl

theorem returned_int (i : Int64) : c.returned (.int i.toInt) = .json (.int i.toInt) := by
  rw [returned, ofStorage_toStorage plain, type]
  exact ColumnType.asJson_restored (Json.fits_int64 i _) rfl

theorem returned_bool (b : Bool) : c.returned (.bool b) = .json (.bool b) := by
  rw [returned, ofStorage_toStorage plain, type]
  exact ColumnType.asJson_restored (.bool _ b) rfl

end Column

/-- A text is read back as itself if and only if it means no JSON value. -/
theorem text_returned_iff (s : String) :
    ofValue (c.returned (toValue s)) = .ok s ↔ Json.read? s = none := by
  show ofValue (c.returned (.text s)) = .ok s ↔ _
  rw [Column.returned_text type plain]
  cases read : Json.read? s with
  | none => exact iff_of_true rfl rfl
  | some j =>
    refine iff_of_false ?_ nofun
    cases j with
    | string other =>
      intro same
      obtain rfl : other = s := Except.ok.inj same
      exact Json.read?_ne_self other read
    | _ => nofun

end

/-- Fields of a column of JSON values. JSON values are read back, with whole numbers of 64 bits and
at most 127 arrays and objects inside one another. A text is read back as itself if and only if it
means no JSON value, and otherwise the value that it means is handed out. Whole numbers and truth
values are handed out as the JSON values that they are written as. -/
theorem json_fields_returned {c : Column} (type : c.type = .json) (plain : c.transformers = []) :
    (∀ j : Json, Json.Fits 127 j → ofValue (c.returned (toValue j)) = .ok j) ∧
      (∀ s : String, ofValue (c.returned (toValue s)) = .ok s ↔ Json.read? s = none) ∧
      (∀ (s : String) (j : Json), Json.read? s = some j → c.returned (toValue s) = .json j) ∧
      (∀ i : Int64, c.returned (toValue i) = .json (.int i.toInt)) ∧
      ∀ b : Bool, c.returned (toValue b) = .json (.bool b) := by
  refine ⟨fun j fits => ?_, text_returned_iff type plain, fun s j read => ?_, ?_, ?_⟩
  · show ofValue (c.returned (.json j)) = .ok j
    rw [Column.returned_json type plain fits]
    rfl
  · show c.returned (.text s) = .json j
    rw [Column.returned_text type plain, read]
    rfl
  · exact Column.returned_int type plain
  · exact Column.returned_bool type plain

namespace Payloads

def column : Column := { name := "payload", type := .json }

/-- The text of a number comes back as the number, which is no text; a text in quotes comes back
without them. -/
theorem texts_not_returned :
    ofValue (column.returned (toValue "5")) ≠ Except.ok "5" ∧
      ofValue (column.returned (toValue "\"abc\"")) = Except.ok "abc" := by
  have number : column.returned (toValue "5") = .json (.int 5) := rfl
  have quoted : column.returned (toValue "\"abc\"") = .json (.string "abc") := rfl
  rw [number, quoted]
  exact ⟨nofun, rfl⟩

/-- A text that means nothing comes back, and so do a value, a number and a truth value. -/
theorem payloads_returned :
    (column.type = .json ∧ column.transformers = []) ∧
      (Json.Fits 127 (.array [.int 5]) ∧
        ofValue (column.returned (toValue (Json.array [.int 5]))) = .ok (Json.array [.int 5])) ∧
      (Json.read? "abc" = none ∧ ofValue (column.returned (toValue "abc")) = .ok "abc") ∧
      (Json.read? "[5]" = some (.array [.int 5]) ∧
        column.returned (toValue "[5]") = .json (.array [.int 5])) ∧
      column.returned (toValue (-5 : Int64)) = .json (.int (-5)) ∧
      column.returned (toValue true) = .json (.bool true) := by
  have fits : Json.Fits 127 (.array [.int 5]) :=
    .array fun item h => List.mem_singleton.1 h ▸ .int _ (by decide) (by decide)
  obtain ⟨values, texts, meanings, numbers, truths⟩ :=
    json_fields_returned (c := column) rfl rfl
  exact ⟨⟨rfl, rfl⟩, ⟨fits, values _ fits⟩, ⟨rfl, (texts "abc").2 rfl⟩,
    ⟨rfl, meanings "[5]" _ rfl⟩, numbers (-5), truths true⟩

end Payloads

end EntityStore
