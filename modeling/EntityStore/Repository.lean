import EntityStore.DataSource
import EntityStore.Page
import EntityStore.Query.Relation

/-!
# Repositories

A repository finds, saves and removes the members of one entity. It belongs to the data source or to
the transaction scope that it was taken from, and each of them has one repository for an entity.
-/

namespace EntityStore

variable {σ α : Type}

/-- Where a repository is taken from. -/
inductive Owner where
  | dataSource
  /-- The transaction scope of this `Scope.number`. -/
  | scope (number : Nat)
  deriving DecidableEq, Repr

structure FindOptions where
  filter : Option Filter := none
  /-- The columns that decide the order, the most important first. -/
  order : List (String × Direction) := []
  limit : Option Nat := none
  offset : Option Nat := none
  /-- The relations whose targets are selected, too. -/
  relations : List String := []

/-- The members of an `entity` in a database of type `σ`. -/
structure Repository (σ α : Type) where
  connection : Connection σ
  registry : Registry
  entity : Entity α
  table : Table
  owner : Owner

/-- The repository for `e` that the data source, or a scope that uses it, hands out. -/
def DataSource.repository (ds : DataSource σ) (owner : Owner) (e : Entity α) :
    Except Error (Repository σ α) := do
  return ⟨ds.connection, ds.registry, e, ← ds.registry.table e.key, owner⟩

namespace Repository

/-- Whether two repositories are the same: those of one `owner` for one entity. -/
def same (a b : Repository σ α) : Bool := a.owner == b.owner && a.entity.key == b.entity.key

def query (r : Repository σ α) : Query := { table := r.table }

/-- The query for what `find` answers, the tables of `relations` being joined. -/
def findQuery (r : Repository σ α) (o : FindOptions) : Except Error Query := do
  let q ← r.query.joinRelations r.registry o.relations
  return { q with filter := o.filter, order := o.order, limit := o.limit, offset := o.offset }

def find (r : Repository σ α) (o : FindOptions) : DatabaseM σ (List α) := do
  (← r.findQuery o).execute r.connection r.entity

/-- The member with the primary key `id`. -/
def findOne? (r : Repository σ α) (id : Value) : DatabaseM σ (Option α) := do
  let primary ← r.table.primary
  (r.query.filtered (.condition (.equal primary.name id))).getOne? r.connection r.entity

/-- Set the primary key of an inserted `row` to the number that the database has made up for it. -/
def fillKey (t : Table) (row : Record) (result : Option RunResult) : Record :=
  match t.primary?, result.bind RunResult.lastInsertId with
  | some primary, some id =>
    if primary.isIncrement && row.lacks primary.name then row.set primary.name (.int id) else row
  | _, _ => row

/-- Insert a `member`, and answer it as it is stored. -/
def save (r : Repository σ α) (member : α) : SessionM σ α := do
  let (rows, results) ← r.table.insertRows r.connection [r.entity.toRecord member]
  r.entity.ofRecord (fillKey r.table (rows.head?.getD .empty) results.head?)

/-- Set `values` of the member with the primary key `id`. Without any nothing is done. -/
def update (r : Repository σ α) (id : Value) (values : Record) : DatabaseM σ RunResult := do
  let primary ← r.table.primary
  if values.isEmpty then return {}
  let results ← r.table.batchUpdate r.connection [⟨Record.ofList [(primary.name, id)], values⟩]
  return results.getLast?.getD {}

/-- Remove the member with the primary key `id`. -/
def remove (r : Repository σ α) (id : Value) : DatabaseM σ RunResult := do
  let primary ← r.table.primary
  r.connection.driver.run (r.table.removeStatement r.connection.dialect primary id)

/-- Insert a `member`; if there is one with its primary key, set all its other values. -/
def upsert (r : Repository σ α) (member : α) : SessionM σ α := do
  let primary ← r.table.primary
  let random ← SessionM.randoms r.table.columns.length
  let uuid (k : Nat) := (Uuid.ofRandom (random k)).text
  let row := r.table.prepareRow uuid (r.entity.toRecord member)
  let statement ← r.table.upsertStatement r.connection.dialect primary row
  let _ ← SessionM.atDatabase (r.connection.driver.run statement)
  r.entity.ofRecord row

/-- The number of members that a `filter` lets through. -/
def count (r : Repository σ α) (filter : Option Filter) : DatabaseM σ Nat := do
  return (← { r.query with filter := filter }.count r.connection "*").toNat

/-- Whether a `filter` lets any member through. -/
def exists? (r : Repository σ α) (filter : Option Filter) : DatabaseM σ Bool := do
  return 0 < (← r.count filter)

/-- The answers of `find` and, for the same filter, of `count`. -/
def findAndCount (r : Repository σ α) (o : FindOptions) : DatabaseM σ (List α × Nat) := do
  let members ← r.find o
  return (members, ← r.count o.filter)

/-- The page that is `asked` for of the members that a `filter` lets through. -/
def findPage (r : Repository σ α) (asked : Pageable) (filter : Option Filter) :
    DatabaseM σ (Page α) := do
  let asked := asked.clamped
  let (members, total) ← r.findAndCount
    { filter := filter, limit := some asked.size, offset := some asked.offset }
  return Page.make members asked total

/-- The conditions for a page: the fields of the filter are matched, and the value of `orderBy` is
greater than the cursor. -/
def cursorConditions (o : CursorPageable) (orderBy : String) : List Condition :=
  o.filter.fields.map (fun field => .equal field.1 field.2) ++
    (match o.cursor with
      | some value => [.compare .gt orderBy value]
      | none => [])

/-- The query for a page and one row more, by which it is told whether there is a page after it. -/
def cursorQuery (r : Repository σ α) (o : CursorPageable) (orderBy : String) : Query :=
  let conditions := cursorConditions o orderBy
  let q := (r.query.orderBy orderBy .asc).limited (clampCount (max o.size 1 + 1))
  if conditions.isEmpty then q else q.filtered (.condition (.all conditions))

/-- A page of the members in the order of one column, without the row that `cursorQuery` asks for
beside it. -/
def findCursorPage (r : Repository σ α) (o : CursorPageable) : DatabaseM σ (CursorPage α) := do
  let size := max o.size 1
  let orderBy ← match o.orderBy with
    | some column => pure column
    | none => (r.table.primary.map Column.name : DatabaseM σ String)
  let rows ← (r.cursorQuery o orderBy).rows r.connection
  let hasNext := size < rows.length
  let shown := rows.take size
  let nextCursor := if hasNext then shown.getLast?.bind (·.get? orderBy) else none
  let members ← shown.mapM fun row => (r.entity.ofRecord row : DatabaseM σ α)
  return ⟨members, nextCursor, hasNext⟩

end Repository

end EntityStore
