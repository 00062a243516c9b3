import EntityStore.DataSource
import EntityStore.Migration.History

/-!
# Executing migrations

An executor holds declared migrations in ascending order of their timestamps, of which no two are
equal. It makes those that the history does not list, takes the last ones back, and adds to the
history or removes from it after every single one.
-/

namespace EntityStore

variable {σ : Type}

/-- The first of ascending numbers that is equal to the one after it. -/
def firstRepeated? : List Int → Option Int
  | a :: b :: rest => if a = b then some a else firstRepeated? (b :: rest)
  | _ => none

/-- Ascending numbers of which none is repeated ascend strictly. -/
theorem pairwise_lt_of_firstRepeated? {numbers : List Int} (ascending : numbers.Pairwise (· ≤ ·))
    (h : firstRepeated? numbers = none) : numbers.Pairwise (· < ·) := by
  induction numbers with
  | nil => exact .nil
  | cons a rest ih =>
    cases rest with
    | nil => exact List.pairwise_singleton _ _
    | cons b rest =>
      obtain ⟨least, tail⟩ := List.pairwise_cons.1 ascending
      by_cases hab : a = b
      · simp [firstRepeated?, hab] at h
      · rw [firstRepeated?, if_neg hab] at h
        have strict := ih tail h
        refine List.pairwise_cons.2 ⟨fun c hc => ?_, strict⟩
        have hb := least b (List.mem_cons_self ..)
        rcases List.mem_cons.1 hc with rfl | hc
        · omega
        · have := (List.pairwise_cons.1 strict).1 c hc
          omega

/-- In ascending order of the timestamps. -/
def Migration.sorted (migrations : List (Migration σ)) : List (Migration σ) :=
  migrations.mergeSort fun a b => decide (a.timestamp ≤ b.timestamp)

theorem Migration.pairwise_sorted (migrations : List (Migration σ)) :
    ((sorted migrations).map timestamp).Pairwise (· ≤ ·) := by
  rw [List.pairwise_map]
  refine (List.pairwise_mergeSort ?_ ?_ migrations).imp fun h => of_decide_eq_true h
  · intro a b c hab hbc
    simp only [decide_eq_true_eq] at *
    omega
  · intro a b
    simp only [Bool.or_eq_true, decide_eq_true_eq]
    omega

/-- Declared `migrations`, with the `history` in which they are listed. -/
structure Executor (σ : Type) where
  history : History σ
  migrations : List (Migration σ)
  ascending : (migrations.map Migration.timestamp).Pairwise (· < ·)

namespace Executor

/-- The executor of declared `migrations`. Two migrations for one timestamp are an error, which
names the least such timestamp. -/
def make (history : History σ) (migrations : List (Migration σ)) : Except Error (Executor σ) :=
  match h : firstRepeated? ((Migration.sorted migrations).map Migration.timestamp) with
  | some timestamp => .error (.duplicateTimestamp timestamp)
  | none => .ok ⟨history, Migration.sorted migrations,
      pairwise_lt_of_firstRepeated? (Migration.pairwise_sorted migrations) h⟩

/-- The executor of declared `migrations`, with the history in the table that `migrationsTable`
names. -/
def ofDataSource (ds : DataSource σ) (migrations : List (Migration σ)) :
    Except Error (Executor σ) := do
  make (← History.make ds.connection ds.options.migrationsTable) migrations

def connection (e : Executor σ) : Connection σ := e.history.connection

/-- Create the table of the history, if it is missing. -/
def start (e : Executor σ) : DatabaseM σ Unit := e.history.ensure

/-- The migrations in the history, whose table is created if it is missing. -/
def executed (e : Executor σ) : DatabaseM σ (List ExecutedMigration) := do
  e.start
  e.history.executed

/-- Make migrations in order, each of them being inserted into the history before the next one
begins. Answers their timestamps. -/
def runUp (e : Executor σ) : List (Migration σ) → SessionM σ (List Int)
  | [] => return []
  | m :: rest => do
    let elapsed ← m.runUp e.connection
    e.history.insert m.timestamp m.name elapsed
    return m.timestamp :: (← e.runUp rest)

/-- Make the `migrations` that the history does not list, the earliest first. Answers their
timestamps. -/
def executePending (e : Executor σ) : SessionM σ (List Int) := do
  let executed ← SessionM.atDatabase e.executed
  let timestamps := executed.map ExecutedMigration.timestamp
  e.runUp (e.migrations.filter fun m => !timestamps.contains m.timestamp)

/-- The declared migration for the timestamp of an `executed` one. -/
def declared (e : Executor σ) (executed : ExecutedMigration) : Except Error (Migration σ) :=
  match e.migrations.find? fun m => m.timestamp == executed.timestamp with
  | some m => .ok m
  | none => .error (.migrationNotFound executed.timestamp executed.name)

/-- Take migrations back in order, each of them being deleted from the history before the next one
begins. Answers their timestamps. -/
def runDown (e : Executor σ) : List ExecutedMigration → SessionM σ (List Int)
  | [] => return []
  | executed :: rest => do
    let m ← e.declared executed
    let _ ← m.runDown e.connection
    SessionM.atDatabase (e.history.delete executed.timestamp)
    return executed.timestamp :: (← e.runDown rest)

/-- Take the last `steps` migrations of the history back, the last one first. Answers their
timestamps. -/
def revert (e : Executor σ) (steps : Nat) : SessionM σ (List Int) := do
  if steps = 0 then return []
  let executed ← SessionM.atDatabase e.executed
  e.runDown (executed.drop (executed.length - steps)).reverse

/-- The `migrations` with what the history tells of them. Of two rows for one timestamp the last one
counts. -/
def status (e : Executor σ) : DatabaseM σ (List MigrationStatus) := do
  let executed ← e.executed
  return e.migrations.map fun m =>
    let row := executed.reverse.find? fun row => row.timestamp == m.timestamp
    { timestamp := m.timestamp, name := m.name, executed := row.isSome,
      executedAt := row.bind ExecutedMigration.executedAt,
      executionTime := row.map ExecutedMigration.executionTime }

/-- Run `executePending` at the start of a program. If a migration fails, the last one in the
history is taken back, as far as that succeeds, and the first error is handed on. -/
def bootstrap (e : Executor σ) : SessionM σ (List Int) := do
  match ← e.executePending.outcome with
  | .ok timestamps => return timestamps
  | .error error => do
    let _ ← (e.revert 1).outcome
    throw error

end Executor

/-- Run `start` and then `bootstrap`, if `migrationsRun` is set. -/
def DataSource.startWithMigrations (ds : DataSource σ) (migrations : List (Migration σ)) :
    SessionM σ Unit := do
  SessionM.atDatabase ds.start
  if ds.options.migrationsRun then
    let executor ← Executor.ofDataSource ds migrations
    let _ ← executor.bootstrap

end EntityStore
