import EntityStore.Dialect.Upsert
import EntityStore.Storage
import EntityStore.Table

/-!
# Statements that change rows

The statements that insert, update and remove rows of a table. Every field that they mention has to
be a column of the table. Before a row is inserted, what the table makes up for it is filled in.
-/

namespace EntityStore

namespace Record

/-- Whether `r` has no value for `name`: no such field, or `Value.null` in it. -/
def lacks (r : Record) (name : String) : Bool := ((r.get? name).map Value.isNull).getD true

end Record

namespace Column

/-- Fill in what `c` makes up. A missing identifier is `drawn`; a number that the database counts up
is left to it, so `row` must not hold `Value.null` for it. -/
def prepare (c : Column) (drawn : String) (row : Record) : Record :=
  match c.generation with
  | some .uuid => if row.lacks c.name then row.set c.name (.text drawn) else row
  | some .increment => if row.contains c.name && row.lacks c.name then row.erase c.name else row
  | none => row

end Column

/-- A change of rows: those that match the `criteria` take the `values`. -/
structure Update where
  criteria : Record
  values : Record

namespace Table

/-- Fill in what the columns of `t` make up. The identifier `drawn` for a column depends on its
place among the columns. -/
def prepareRow (t : Table) (drawn : Nat → String) (row : Record) : Record :=
  t.columns.zipIdx.foldl (fun row column => column.1.prepare (drawn column.2) row) row

/-- Fill in what the columns of `t` make up for several `rows`. -/
def prepareRows (t : Table) (drawn : Nat → String) (rows : List Record) : List Record :=
  rows.zipIdx.map fun row => t.prepareRow (fun k => drawn (row.2 * t.columns.length + k)) row.1

/-- The first name that is not a column of `t` is an error. -/
def checkNames (t : Table) : List String → Except Error Unit
  | [] => .ok ()
  | name :: rest => do
    let _ ← t.column name
    t.checkNames rest

/-- The fields of `row` in stored form. -/
def storedFields (t : Table) (row : Record) : List (String × Value) :=
  row.fields.map fun field => (field.1, EntityStore.toStorage (t.column? field.1) field.2)

/-- The statement that inserts `row`, with the columns that it has. -/
def insertStatement (t : Table) (d : Dialect) (row : Record) : Statement :=
  if row.isEmpty then .plain (d.insertDefaults t.name)
  else (insertRow t.name (t.storedFields row)).statement d

def insertStatements (t : Table) (d : Dialect) (rows : List Record) :
    Except Error (List Statement) := do
  t.checkNames (rows.flatMap Record.names)
  return rows.map (t.insertStatement d)

/-- The statement that updates rows; all rows if there are no criteria. -/
def updateStatement (t : Table) (d : Dialect) (u : Update) : Except Error Statement := do
  t.checkNames u.values.names
  t.checkNames u.criteria.names
  let rows := if u.criteria.isEmpty then []
    else .text " WHERE " :: equations " AND " (t.storedFields u.criteria)
  return Sql.statement d ([.text ("UPDATE " ++ t.name ++ " SET ")] ++
    equations ", " (t.storedFields u.values) ++ rows)

def updateStatements (t : Table) (d : Dialect) (updates : List Update) :
    Except Error (List Statement) :=
  updates.mapM (t.updateStatement d)

/-- The statement that inserts `row`, or updates the one with the same primary key. -/
def upsertStatement (t : Table) (d : Dialect) (primary : Column) (row : Record) :
    Except Error Statement := do
  t.checkNames row.names
  return (upsertRow d t.name (t.storedFields row) primary.name).statement d

/-- The statement that removes the row with the primary key `id`. -/
def removeStatement (t : Table) (d : Dialect) (primary : Column) (id : Value) : Statement :=
  Sql.statement d [.text ("DELETE FROM " ++ t.name ++ " WHERE " ++ primary.name ++ " = "),
    .bound (primary.toStorage id)]

end Table

end EntityStore
