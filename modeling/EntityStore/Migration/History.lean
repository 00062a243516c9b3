import EntityStore.Migration
import EntityStore.Schema

/-!
# The history of migrations

A table of the database lists the migrations that have been executed. Its rows are read back as what
was written, the time of execution to the millisecond.
-/

namespace EntityStore

/-- The columns of a history table. -/
def historyColumns : List Column :=
  [.primaryGenerated "id" .increment,
   { name := "timestamp", type := .bigInt, unique := true, nullable := some false },
   { name := "name", type := .text, nullable := some false },
   { name := "executed_at", type := .datetime },
   { name := "execution_time", type := .integer, nullable := some false }]

/-- The `table` in which executed migrations are listed. -/
structure History (σ : Type) where
  connection : Connection σ
  table : Table

variable {σ : Type}

/-- The migration that a `row` of a history table denotes. -/
def ExecutedMigration.ofRow (row : Record) : Except Error ExecutedMigration := do
  let (timestamp, row) := row.takeAs Int "timestamp"
  let timestamp ← timestamp
  let (name, row) := row.takeAs String "name"
  let name ← name
  let (executedAt, row) := row.takeAs (Option Calendar.Instant) "executed_at"
  let executedAt ← executedAt
  let (executionTime, _) := row.takeAs (Option Int) "execution_time"
  return ⟨timestamp, name, executedAt, (← executionTime).getD 0⟩

namespace History

/-- The history in the table `name`, which has to be an identifier. -/
def make (c : Connection σ) (name : String) : Except Error (History σ) := do
  checkIdentifier .table name
  return ⟨c, { name := name, columns := historyColumns }⟩

def ensure (h : History σ) : DatabaseM σ Unit :=
  h.connection.driver.exec (h.table.createStatement h.connection.dialect)

/-- In ascending order of their timestamps. -/
def executed (h : History σ) : DatabaseM σ (List ExecutedMigration) := do
  let rows ← h.connection.driver.all
    (.plain ("SELECT * FROM " ++ h.table.name ++ " ORDER BY timestamp ASC"))
  rows.toList.mapM fun row =>
    (ExecutedMigration.ofRow (row.ofStorage h.table.columns) : DatabaseM σ ExecutedMigration)

/-- The statement that adds a migration to the history. -/
def insertStatement (h : History σ) (timestamp : Int) (name : String) (now : Calendar.Instant)
    (executionTime : Int) : Statement :=
  (insertRow h.table.name [("timestamp", .int timestamp), ("name", .text name),
    ("executed_at", toStorage (h.table.column? "executed_at") (.instant now)),
    ("execution_time", .int executionTime)]).statement h.connection.dialect

/-- Insert a migration as executed now. -/
def insert (h : History σ) (timestamp : Int) (name : String) (executionTime : Int) :
    SessionM σ Unit := do
  let now ← SessionM.now
  let _ ← SessionM.atDatabase
    (h.connection.driver.run (h.insertStatement timestamp name now executionTime))

def delete (h : History σ) (timestamp : Int) : DatabaseM σ Unit := do
  let _ ← h.connection.driver.run (Sql.statement h.connection.dialect
    [.text ("DELETE FROM " ++ h.table.name ++ " WHERE timestamp = "), .bound (.int timestamp)])

end History

end EntityStore
