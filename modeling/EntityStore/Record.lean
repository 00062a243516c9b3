import EntityStore.Value
import EntityStore.Error

/-!
# Records

A record holds named values in the order in which the names were first set, each name once. A row of
a table is a record, and so is an entity on its way to or from the database.
-/

namespace EntityStore

/-- Set the field `name`. A value is replaced at its place, and a new name goes to the end. -/
def setField (name : String) (value : Value) : List (String × Value) → List (String × Value)
  | [] => [(name, value)]
  | field :: rest =>
    if field.1 = name then (name, value) :: rest else field :: setField name value rest

theorem map_fst_setField (name : String) (value : Value) (fields : List (String × Value)) :
    (setField name value fields).map Prod.fst =
      if name ∈ fields.map Prod.fst then fields.map Prod.fst
      else fields.map Prod.fst ++ [name] := by
  induction fields with
  | nil => simp [setField]
  | cons field rest ih =>
    by_cases h : field.1 = name
    · simp [setField, h]
    · by_cases hrest : name ∈ rest.map Prod.fst
      · simp only [setField, h, if_false, List.map_cons, ih, hrest, if_true, List.mem_cons,
          or_true]
      · have h' : ¬ name = field.1 := fun e => h e.symm
        simp only [setField, h, h', if_false, List.map_cons, ih, hrest, List.mem_cons, or_self,
          List.cons_append]

/-- A record: fields in order, with distinct names. -/
structure Record where
  fields : List (String × Value)
  distinct : (fields.map Prod.fst).Nodup

namespace Record

def empty : Record := ⟨[], List.nodup_nil⟩

instance : Inhabited Record := ⟨empty⟩

def names (r : Record) : List String := r.fields.map Prod.fst

def size (r : Record) : Nat := r.fields.length

def isEmpty (r : Record) : Bool := r.fields.isEmpty

def get? (r : Record) (name : String) : Option Value := r.fields.lookup name

def contains (r : Record) (name : String) : Bool := (r.get? name).isSome

/-- Set the field `name` as `setField` does. -/
def set (r : Record) (name : String) (value : Value) : Record where
  fields := setField name value r.fields
  distinct := by
    rw [map_fst_setField]
    split
    · exact r.distinct
    · rename_i new
      refine List.nodup_append.2 ⟨r.distinct, by simp, ?_⟩
      intro a ha b hb
      simp only [List.mem_singleton] at hb
      subst hb
      exact fun e => new (e ▸ ha)

def erase (r : Record) (name : String) : Record where
  fields := r.fields.filter fun field => field.1 ≠ name
  distinct := r.distinct.sublist (List.filter_sublist.map Prod.fst)

/-- Replace every value by `f` of its name and itself. -/
def mapValues (r : Record) (f : String → Value → Value) : Record where
  fields := r.fields.map fun field => (field.1, f field.1 field.2)
  distinct := by
    rw [List.map_map]
    exact r.distinct

/-- The record made by setting the `fields` one after another. -/
def ofList (fields : List (String × Value)) : Record :=
  fields.foldl (fun r field => r.set field.1 field.2) empty

/-- Records are equal when they give equal values to the same names, in any order. -/
instance : BEq Record where
  beq a b := a.size == b.size && a.fields.all fun field =>
    match b.get? field.1 with
    | some value => field.2 == value
    | none => false

@[simp] theorem names_set (r : Record) (name : String) (value : Value) :
    (r.set name value).names = if name ∈ r.names then r.names else r.names ++ [name] :=
  map_fst_setField name value r.fields

@[simp] theorem names_mapValues (r : Record) (f : String → Value → Value) :
    (r.mapValues f).names = r.names := by
  simp [names, mapValues, Function.comp_def]

end Record

end EntityStore
