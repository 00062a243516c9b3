import EntityStore.Column
import EntityStore.Error
import EntityStore.Relation

/-!
# Tables

A table as an entity declares it: its name, its columns and the relations of the entity.
-/

namespace EntityStore

/-- A table, with columns and relations in the order of their declaration. -/
structure Table where
  name : String
  columns : List Column := []
  relations : List Relation := []
  deriving Inhabited

namespace Table

/-- The first column of that `name`. -/
def column? (t : Table) (name : String) : Option Column := t.columns.find? (·.name == name)

/-- The first relation of that `property`. -/
def relation? (t : Table) (property : String) : Option Relation :=
  t.relations.find? (·.property == property)

/-- The first primary column. -/
def primary? (t : Table) : Option Column := t.columns.find? (·.primary)

/-- The first column of that `name`, or `Error.unknownColumn`. -/
def column (t : Table) (name : String) : Except Error Column :=
  match t.column? name with
  | some c => .ok c
  | none => .error (.unknownColumn t.name name)

/-- The first primary column, or `Error.noPrimaryColumn`. -/
def primary (t : Table) : Except Error Column :=
  match t.primary? with
  | some c => .ok c
  | none => .error (.noPrimaryColumn t.name)

def addColumn (t : Table) (c : Column) : Table := { t with columns := t.columns ++ [c] }

/-- Apply `change` to the relation of that `property` at its place; if there is none, put `change
new` at the end. -/
def upsertRelation (property : String) (new : Relation) (change : Relation → Relation) :
    List Relation → List Relation
  | [] => [change new]
  | r :: rest =>
    if r.property = property then change r :: rest
    else r :: upsertRelation property new change rest

/-- The table with `r` in place of the relation of its property, or at the end. -/
def setRelation (t : Table) (r : Relation) : Table :=
  { t with relations := upsertRelation r.property r (fun _ => r) t.relations }

/-- The table with `p` applied to the relation of that `property`, which is added if it is
missing. -/
def patchRelation (t : Table) (property : String) (p : RelationPatch) : Table :=
  { t with
    relations := upsertRelation property (.placeholder property) (·.patch p) t.relations }

end Table

end EntityStore
