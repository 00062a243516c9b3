import EntityStore.Identifier
import EntityStore.Table

/-!
# The registry

Which table every entity has. Columns and relations may be declared apart from the table; they are
merged into the entry of their entity, which is made if it is missing.
-/

namespace EntityStore

/-- The tables of entities, at most one for each key. -/
structure Registry where
  entries : List (EntityKey × Table)

namespace Registry

def empty : Registry := ⟨[]⟩

def table? (r : Registry) (key : EntityKey) : Option Table :=
  (r.entries.find? (·.1 == key)).map Prod.snd

/-- The table of an entity, or `Error.entityNotRegistered`. -/
def table (r : Registry) (key : EntityKey) : Except Error Table :=
  match r.table? key with
  | some t => .ok t
  | none => .error (.entityNotRegistered key.name)

/-- Apply `change` to the entry of `key` at its place; if it is missing, put `change new` at the
end. An entry keeps the key under which it was made. -/
def upsertEntry (key : EntityKey) (new : Table) (change : Table → Table) :
    List (EntityKey × Table) → List (EntityKey × Table)
  | [] => [(key, change new)]
  | entry :: rest =>
    if entry.1 == key then (entry.1, change entry.2) :: rest
    else entry :: upsertEntry key new change rest

/-- Set the table of an entity. -/
def addTable (r : Registry) (key : EntityKey) (t : Table) : Registry :=
  ⟨upsertEntry key t (fun _ => t) r.entries⟩

/-- Set the table of an entity. The name of `t` has to be an identifier. -/
def register (r : Registry) (key : EntityKey) (t : Table) : Except Error Registry :=
  if Identifier.isValid t.name false then .ok (r.addTable key t)
  else .error (.invalidIdentifier .table t.name)

/-- Apply `change` to the table of an entity, which is made on demand. -/
def modify (r : Registry) (key : EntityKey) (change : Table → Table) : Registry :=
  ⟨upsertEntry key { name := key.defaultTable } change r.entries⟩

def addColumn (r : Registry) (key : EntityKey) (c : Column) : Registry :=
  r.modify key (·.addColumn c)

/-- Set a relation of an entity, in place of one of the same property. -/
def setRelation (r : Registry) (key : EntityKey) (relation : Relation) : Registry :=
  r.modify key (·.setRelation relation)

/-- Apply `p` to the relation of an entity with the given `property`, which is made on demand. -/
def patchRelation (r : Registry) (key : EntityKey) (property : String) (p : RelationPatch) :
    Registry :=
  r.modify key (·.patchRelation property p)

/-- The tables in ascending order of their names. -/
def tables (r : Registry) : List Table :=
  (r.entries.map Prod.snd).mergeSort fun a b => a.name ≤ b.name

end Registry

end EntityStore
