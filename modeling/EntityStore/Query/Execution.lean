import EntityStore.Field
import EntityStore.Query.Select
import EntityStore.Session
import EntityStore.Table.Row
import EntityStore.Uuid

/-!
# Running queries

A connection is a driver together with the dialect that its database understands. Queries are run
and rows are changed through it. A query whose names are wrong fails before the driver is asked.
-/

namespace EntityStore

structure Connection (σ : Type) where
  driver : Driver σ
  dialect : Dialect

/-- What is needed to keep members of `α` in a table. -/
structure Entity (α : Type) where
  key : EntityKey
  table : Table
  toRecord : α → Record
  ofRecord : Record → Except Error α

variable {σ : Type}

namespace Query

/-- The rows that answer a `statement`, with the values of declared columns read by their types. -/
def fetch (q : Query) (c : Connection σ) (statement : Statement) : DatabaseM σ (List Record) := do
  return (← c.driver.all statement).toList.map (Record.ofStorage q.table.columns)

def rows (q : Query) (c : Connection σ) : DatabaseM σ (List Record) := do
  q.fetch c (← q.selectStatement c.dialect)

/-- The rows that answer the statement `sql`, with the values of the columns that the table of `q`
declares. -/
def raw (q : Query) (c : Connection σ) (sql : String) (params : List Value) :
    DatabaseM σ (List Record) :=
  q.fetch c ⟨sql, params⟩

/-- The members of `e` that the `rows` of `q` denote. -/
def execute {α : Type} (q : Query) (c : Connection σ) (e : Entity α) : DatabaseM σ (List α) := do
  (← q.rows c).mapM fun row => (e.ofRecord row : DatabaseM σ α)

/-- The first of the members that `execute` answers. -/
def getOne? {α : Type} (q : Query) (c : Connection σ) (e : Entity α) : DatabaseM σ (Option α) := do
  return (← (q.limited 1).execute c e).head?

/-- The value of one `expression` over all rows, read under a `name`. -/
def scalar (q : Query) (c : Connection σ) (expression name : String) : DatabaseM σ Value := do
  let statement ← q.aggregateStatement c.dialect expression name
  let row ← c.driver.first statement
  return (row.bind (·.get? name)).getD .null

/-- A function can be applied to a `column` only if that is an identifier or `*`. -/
def checkTarget (column : String) : Except Error Unit :=
  if Identifier.isValid column true then .ok () else .error (.invalidIdentifier .column column)

/-- The number of values of a `column`, or of rows for `*`; 0 if the answer is no number. -/
def count (q : Query) (c : Connection σ) (column : String) : DatabaseM σ Int := do
  checkTarget column
  return (← q.scalar c ("COUNT(" ++ column ++ ")") "count").asInt?.getD 0

/-- The value of `function`, the name of one that answers numbers, over a `column`; 0 if the answer
is no number. -/
def aggregate (q : Query) (c : Connection σ) (function column : String) : DatabaseM σ Float := do
  checkTarget column
  return (← q.scalar c (function ++ "(" ++ column ++ ")") "value").asFloat?.getD 0.0

def sum (q : Query) (c : Connection σ) : String → DatabaseM σ Float := q.aggregate c "SUM"

def avg (q : Query) (c : Connection σ) : String → DatabaseM σ Float := q.aggregate c "AVG"

def max (q : Query) (c : Connection σ) : String → DatabaseM σ Float := q.aggregate c "MAX"

def min (q : Query) (c : Connection σ) : String → DatabaseM σ Float := q.aggregate c "MIN"

end Query

namespace Table

/-- Insert `rows`, each with the columns that it has. Answers the rows with what was filled in, and
the results. -/
def insertRows (t : Table) (c : Connection σ) (rows : List Record) :
    SessionM σ (List Record × List RunResult) := do
  if rows.isEmpty then return ([], [])
  let random ← SessionM.randoms (rows.length * t.columns.length)
  let rows := t.prepareRows (fun k => (Uuid.ofRandom (random k)).text) rows
  let statements ← t.insertStatements c.dialect rows
  let results ← SessionM.atDatabase (c.driver.submit statements)
  return (rows, results)

/-- Insert `rows`. All of them are checked before the first one is inserted. -/
def batchInsert (t : Table) (c : Connection σ) (rows : List Record) :
    SessionM σ (List RunResult) := do
  return (← t.insertRows c rows).2

/-- Make several `updates`. All of them are checked before the first one is made. -/
def batchUpdate (t : Table) (c : Connection σ) (updates : List Update) :
    DatabaseM σ (List RunResult) := do
  if updates.isEmpty then return []
  c.driver.submit (← t.updateStatements c.dialect updates)

end Table

end EntityStore
