import EntityStore.Calendar.Instant
import EntityStore.Driver

/-!
# Sessions

The state in which the operations of this library run: the database, the transaction scopes that
have been made and how far each of them got, and what comes from outside, random numbers and clocks.
What comes from outside is a given sequence, of which every use takes the next member.
-/

namespace EntityStore

/-- What an operation finds outside the program at its first, second, third use and so on. -/
structure Outside where
  random : Nat → Nat
  clock : Nat → Calendar.Instant
  /-- In milliseconds. -/
  stopwatch : Nat → Nat

/-- How far a transaction scope got. -/
inductive ScopeState where
  | idle
  | active
  /-- It has ended and its changes are kept. -/
  | committed
  /-- It has ended and its changes are undone. -/
  | rolledBack
  deriving DecidableEq, Repr

def ScopeState.name : ScopeState → String
  | idle => "Idle"
  | active => "Active"
  | committed => "Committed"
  | rolledBack => "RolledBack"

/-- A transaction scope: a transaction of its own, or a part of one between savepoints. -/
structure Scope where
  /-- Tells the scopes of a session apart. -/
  number : Nat
  /-- The name of the savepoint of a scope within a transaction. -/
  savepoint : Option String := none
  isolation : Option IsolationLevel := none
  /-- Whether an isolation level that the dialect cannot set is an error. -/
  strict : Bool := false
  deriving DecidableEq, Repr

structure Session (σ : Type) where
  database : σ
  outside : Outside
  /-- How often something was taken from `outside`. -/
  uses : Nat := 0
  /-- How many scopes have been made. -/
  scopes : Nat := 0
  /-- How far the scope of a number got. -/
  stateOf : Nat → ScopeState := fun _ => .idle
  /-- How many savepoints have been named. -/
  savepoints : Nat := 0
  /-- The scopes that the data source has begun, the innermost first. -/
  openScopes : List Scope := []

/-- What is done in a session: it may fail, and leaves a session behind in either case. -/
abbrev SessionM (σ : Type) := ExceptT Error (StateM (Session σ))

namespace SessionM

variable {σ α : Type}

/-- Do something at the database of the session. -/
def atDatabase (action : DatabaseM σ α) : SessionM σ α := fun session =>
  let (result, database) := action session.database
  (result, { session with database := database })

/-- The result of `action` as an answer, whether it succeeds or fails. -/
def outcome (action : SessionM σ α) : SessionM σ (Except Error α) := fun session =>
  let (result, session) := action session
  (.ok result, session)

/-- Take the next `count` uses of what comes from outside, and tell the number of the first of
them. -/
def use (count : Nat) : SessionM σ Nat := do
  let session ← get
  set { session with uses := session.uses + count }
  return session.uses

/-- Random numbers that are used nowhere else; only the first `count` of them may be taken. -/
def randoms (count : Nat) : SessionM σ (Nat → Nat) := do
  let session ← get
  let start ← use count
  return fun k => session.outside.random (start + k)

def now : SessionM σ Calendar.Instant := do
  let session ← get
  return session.outside.clock (← use 1)

def stopwatch : SessionM σ Nat := do
  let session ← get
  return session.outside.stopwatch (← use 1)

end SessionM

end EntityStore
