import EntityStore.Query
import EntityStore.Registry

/-!
# Joining along relations

A query is joined with the tables to which relations of its entity lead. Every joined table is used
under the name of the relation; between two sides with many rows each stands a junction table.
-/

namespace EntityStore

namespace Relation

/-- The column that refers to the target: as declared, or the property followed by `Id`. -/
def foreignKey (r : Relation) : String :=
  (r.joinColumn.bind JoinColumn.name).getD (r.property ++ "Id")

/-- The column of `target` that is referred to: as declared, or the primary one. -/
def referenced (r : Relation) (target : Table) : Except Error String :=
  match r.joinColumn.bind JoinColumn.referenced with
  | some column => .ok column
  | none => target.primary.map Column.name

/-- The name under which a query uses the junction table. -/
def junctionName (r : Relation) : String := r.property ++ "_junction"

/-- The column of the target that refers back to `root`. -/
def backReference (r : Relation) (root : Table) : String := r.inverseSide.getD root.name ++ "Id"

end Relation

def columnsEqual (table column otherTable otherColumn : String) : String :=
  table ++ "." ++ column ++ " = " ++ otherTable ++ "." ++ otherColumn

namespace Query

/-- Join the `target` of a relation whose `foreignKey` is in the table of `q`. -/
def joinReferred (q : Query) (r : Relation) (target : Table) : Except Error Query := do
  let referenced ← r.referenced target
  return q.joinSelecting .left target.name r.property
    (columnsEqual q.table.name r.foreignKey r.property referenced)

/-- Join the `target` of a relation whose `backReference` is in the table of the target. -/
def joinReferring (q : Query) (r : Relation) (target : Table) : Except Error Query := do
  let primary ← q.table.primary
  return q.joinSelecting .left target.name r.property
    (columnsEqual r.property (r.backReference q.table) q.table.name primary.name)

/-- Join the `target` of a relation by way of a junction table. -/
def joinThrough (q : Query) (r : Relation) (target : Table) : Except Error Query := do
  let primary ← q.table.primary
  let targetPrimary ← target.primary
  let junction := r.joinTable.getD {}
  let table := junction.name.getD (q.table.name ++ "_" ++ target.name ++ "_" ++ r.property)
  let owner := junction.joinColumn.getD (q.table.name ++ "Id")
  let inverse := junction.inverseJoinColumn.getD (target.name ++ "Id")
  return (q.join .left table r.junctionName
      (columnsEqual r.junctionName owner q.table.name primary.name)).joinSelecting
    .left target.name r.property
    (columnsEqual r.property targetPrimary.name r.junctionName inverse)

/-- Join the table to which the relation `property` leads. -/
def joinRelation (registry : Registry) (q : Query) (property : String) : Except Error Query := do
  let r ← match q.table.relation? property with
    | some r => .ok r
    | none => .error (.unknownColumn q.table.name property)
  let target ← registry.table r.target
  match r.kind with
  | .manyToOne | .oneToOne => q.joinReferred r target
  | .oneToMany => q.joinReferring r target
  | .manyToMany => q.joinThrough r target

/-- Join the tables to which the relations `properties` lead. The query is `renamed` to the name of
its own table, by which the names of columns are then qualified, since a joined table may use them,
too. -/
def joinRelations (registry : Registry) (q : Query) (properties : List String) :
    Except Error Query :=
  if properties.isEmpty then .ok q
  else properties.foldlM (joinRelation registry) (q.renamed q.table.name)

end Query

end EntityStore
