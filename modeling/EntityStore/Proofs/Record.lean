import EntityStore.Field
import EntityStore.Proofs.Keyed
import EntityStore.Storage

/-!
# Fields of a record

Which values and names a record has after one of its fields was set, removed or replaced, and what is
read of it.
-/

namespace EntityStore

theorem setField_eq (name : String) (value : Value) (fields : List (String × Value)) :
    setField name value fields =
      merged Prod.fst name (name, value) (fun _ => (name, value)) fields := by
  induction fields with
  | nil => rfl
  | cons field rest ih => rw [setField, merged, ih]

theorem lookup_setField (name : String) (value : Value) (fields : List (String × Value))
    (other : String) :
    (setField name value fields).lookup other =
      if other = name then some value else fields.lookup other := by
  rw [setField_eq, lookup_merged name value (fun _ => value)]
  split
  · cases fields.lookup name <;> rfl
  · rfl

/-- A field of a `new` name goes to the end. -/
theorem setField_new {name : String} {fields : List (String × Value)}
    (new : name ∉ fields.map Prod.fst) (value : Value) :
    setField name value fields = fields ++ [(name, value)] := by
  rw [setField_eq, merged_of_notMem new]

namespace Record

theorem get?_set (r : Record) (name : String) (value : Value) (other : String) :
    (r.set name value).get? other = if other = name then some value else r.get? other :=
  lookup_setField name value r.fields other

theorem get?_erase (r : Record) (name other : String) :
    (r.erase name).get? other = if other = name then none else r.get? other := by
  show (r.fields.filter fun field => field.1 ≠ name).lookup other =
    if other = name then none else r.fields.lookup other
  induction r.fields with
  | nil => simp
  | cons field rest ih =>
    by_cases removed : field.1 = name
    · rw [List.filter_cons_of_neg (by simpa using removed), ih, lookup_entry, removed]
      split <;> rfl
    · rw [List.filter_cons_of_pos (by simpa using removed), lookup_entry, lookup_entry, ih]
      by_cases first : other = field.1
      · rw [if_pos first, if_pos first, if_neg (first ▸ removed)]
      · rw [if_neg first, if_neg first]

theorem get?_mapValues (r : Record) (f : String → Value → Value) (name : String) :
    (r.mapValues f).get? name = (r.get? name).map (f name) := by
  show (r.fields.map fun field => (field.1, f field.1 field.2)).lookup name =
    (r.fields.lookup name).map (f name)
  induction r.fields with
  | nil => rfl
  | cons field rest ih =>
    rw [List.map_cons, lookup_entry, lookup_entry, ih]
    split
    · rename_i same
      rw [same]
      rfl
    · rfl

theorem get?_ofStorage (columns : List Column) (r : Record) (name : String) :
    (r.ofStorage columns).get? name =
      (r.get? name).map (EntityStore.ofStorage (columns.find? (·.name == name))) :=
  r.get?_mapValues _ name

theorem contains_ofStorage (columns : List Column) (r : Record) (name : String) :
    (r.ofStorage columns).contains name = r.contains name := by
  rw [contains, get?_ofStorage, Option.isSome_map]
  rfl

theorem takeAs_ok {α : Type} [OfValue α] {r : Record} {name : String} {value : Value} {a : α}
    (given : r.get? name = some value) (read : ofValue value = .ok a) :
    r.takeAs α name = (.ok a, r.erase name) := by
  unfold takeAs
  rw [given, Option.getD_some, read]

theorem names_erase (r : Record) (name : String) :
    (r.erase name).names = r.names.filter fun other => other ≠ name := by
  rw [names, names, List.filter_map]
  rfl

theorem contains_iff (r : Record) (name : String) : r.contains name ↔ name ∈ r.names := by
  unfold contains get? names
  induction r.fields with
  | nil => simp
  | cons field rest ih =>
    rw [lookup_entry, List.map_cons, List.mem_cons]
    by_cases first : name = field.1
    · rw [if_pos first]
      exact iff_of_true rfl (.inl first)
    · rw [if_neg first, ih]
      exact ⟨.inr, fun h => h.resolve_left first⟩

theorem isEmpty_eq (r : Record) : r.isEmpty = r.names.isEmpty := by
  simp [isEmpty, names]

end Record

end EntityStore
