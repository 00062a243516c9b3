import EntityStore.Query.Execution
import EntityStore.Registry
import EntityStore.Savepoint

/-!
# Transactions

A scope is used once: it begins, and it ends by keeping or undoing its changes. A root scope is a
transaction; a scope within another one is marked by a savepoint of its own. A call that a scope's
state does not allow fails without a statement, and the state moves on only after the statement that
moves it has succeeded.
-/

namespace EntityStore

variable {σ α : Type}

namespace Scope

/-- A scope that has not begun, with the next number. -/
def make (savepoint : Option String) (isolation : Option IsolationLevel) (strict : Bool) :
    SessionM σ Scope := do
  let session ← get
  set { session with
    scopes := session.scopes + 1
    stateOf := fun number =>
      if number = session.scopes then .idle else session.stateOf number }
  return ⟨session.scopes, savepoint, isolation, strict⟩

/-- A scope that is a transaction of its own. -/
def root (isolation : Option IsolationLevel) (strict : Bool) : SessionM σ Scope :=
  make none isolation strict

/-- A scope within another one, with a new savepoint. -/
def nested : SessionM σ Scope := do
  let random ← SessionM.randoms 1
  let session ← get
  set { session with savepoints := session.savepoints + 1 }
  make (some (Savepoint.name session.savepoints (random 0))) none false

def state (s : Scope) : SessionM σ ScopeState := do
  return (← get).stateOf s.number

def setState (s : Scope) (state : ScopeState) : SessionM σ Unit :=
  modify fun session =>
    { session with
      stateOf := fun number => if number = s.number then state else session.stateOf number }

def isActive (s : Scope) : SessionM σ Bool := do
  return (← s.state) == .active

/-- Whether the scope lies within another one. -/
def isNested (s : Scope) : Bool := s.savepoint.isSome

/-- Only the `expected` state allows a call. -/
def require (s : Scope) (expected : ScopeState) : SessionM σ Unit := do
  if (← s.state) ≠ expected then throw .transactionInactive

/-- Run a statement that controls a transaction. -/
def control (c : Connection σ) (sql : String) : SessionM σ Unit :=
  SessionM.atDatabase (c.driver.exec sql)

/-- Set the isolation level of a scope without a savepoint. A level that the dialect cannot set is
ignored, unless the scope is `strict`. -/
def applyIsolation (s : Scope) (c : Connection σ) : SessionM σ Unit :=
  match s.isolation with
  | none => return
  | some level =>
    match c.dialect.isolation? level with
    | some sql => control c sql
    | none => if s.strict then throw (.unsupportedIsolation level.name) else return

def begin (s : Scope) (c : Connection σ) : SessionM σ Unit := do
  if !c.driver.supportsTransactions then throw .transactionUnsupported
  s.require .idle
  match s.savepoint with
  | some name => control c ("SAVEPOINT " ++ name)
  | none => do
    s.applyIsolation c
    control c c.dialect.begin
  s.setState .active

/-- End the scope and keep its changes. -/
def commit (s : Scope) (c : Connection σ) : SessionM σ Unit := do
  s.require .active
  match s.savepoint with
  | some name => control c ("RELEASE SAVEPOINT " ++ name)
  | none => control c "COMMIT"
  s.setState .committed

/-- End the scope and undo its changes. A savepoint is given up afterwards; should that fail, the
changes are undone nevertheless. -/
def rollback (s : Scope) (c : Connection σ) : SessionM σ Unit := do
  s.require .active
  match s.savepoint with
  | some name => do
    control c ("ROLLBACK TO SAVEPOINT " ++ name)
    s.setState .rolledBack
    control c ("RELEASE SAVEPOINT " ++ name)
  | none => do
    control c "ROLLBACK"
    s.setState .rolledBack

/-- End the scope by the result of what was done in it: `commit` for a success, and `rollback` for
an error, which is handed on even if the changes cannot be undone. -/
def finish (s : Scope) (c : Connection σ) : Except Error α → SessionM σ α
  | .ok a => do
    s.commit c
    return a
  | .error e => do
    let _ ← (s.rollback c).outcome
    throw e

/-- Run `body` between the beginning and the end of the scope. -/
def run (s : Scope) (c : Connection σ) (body : Scope → SessionM σ α) : SessionM σ α := do
  s.begin c
  let result ← (body s).outcome
  s.finish c result

/-- Run `body` in a scope within the current one. -/
def transaction (c : Connection σ) (body : Scope → SessionM σ α) : SessionM σ α := do
  (← nested).run c body

end Scope

namespace Connection

/-- The rows that answer the statement `sql`. -/
def query (c : Connection σ) (sql : String) (params : List Value) : DatabaseM σ (List Record) := do
  return (← c.driver.all ⟨sql, params⟩).toList

def execute (c : Connection σ) (sql : String) (params : List Value) : DatabaseM σ RunResult :=
  c.driver.run ⟨sql, params⟩

/-- The members of `e` that the rows that answer the statement `sql` denote. -/
def queryAs (c : Connection σ) (registry : Registry) (e : Entity α) (sql : String)
    (params : List Value) : DatabaseM σ (List α) := do
  let table ← registry.table e.key
  (← c.query sql params).mapM fun row => (e.ofRecord (row.ofStorage table.columns) : DatabaseM σ α)

end Connection

end EntityStore
