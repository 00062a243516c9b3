import EntityStore.Options
import EntityStore.Registry
import EntityStore.Schema
import EntityStore.Transaction

/-!
# Data sources

A data source puts a driver, the registered entities and the options together. It keeps track of the
scopes that it has begun: while one of them is active, the next one is made within it.
-/

namespace EntityStore

variable {σ α : Type}

/-- A database of type `σ` with the entities kept in it. -/
structure DataSource (σ : Type) where
  driver : Driver σ
  registry : Registry
  options : Options

namespace DataSource

/-- The `driver` with the dialect of the `options`. -/
def connection (ds : DataSource σ) : Connection σ := ⟨ds.driver, ds.options.dialect⟩

/-- Create the table of every entity of the `registry` that is missing, in the order of their
names. -/
def synchronize (ds : DataSource σ) : DatabaseM σ Unit :=
  ds.registry.tables.forM fun table => ds.driver.exec (table.createStatement ds.options.dialect)

/-- Create the missing tables by `synchronize`, if the `options` ask for that. -/
def start (ds : DataSource σ) : DatabaseM σ Unit :=
  if ds.options.synchronize then ds.synchronize else return

/-- A scope without a parent, of the given `isolation`, that has not begun. -/
def makeScope (ds : DataSource σ) (isolation : Option IsolationLevel) : SessionM σ Scope :=
  Scope.root isolation ds.options.strictIsolation

/-- Forget the innermost of the `openScopes` as long as they are not active. -/
def dropEnded : SessionM σ Unit :=
  modify fun session =>
    { session with
      openScopes := session.openScopes.dropWhile fun scope =>
        session.stateOf scope.number != .active }

/-- Begin a scope and track it: nested in the innermost of the `openScopes` that is active, or made
by `makeScope` if there is none. -/
def begin (ds : DataSource σ) (isolation : Option IsolationLevel) : SessionM σ Scope := do
  dropEnded
  let scope ← match (← get).openScopes with
    | [] => ds.makeScope isolation
    | _ :: _ => Scope.nested
  scope.begin ds.connection
  modify fun session => { session with openScopes := scope :: session.openScopes }
  return scope

/-- Run `body` between the beginning and the end of a scope. It is committed if `body` succeeds and
rolled back if it fails. -/
def transaction (ds : DataSource σ) (isolation : Option IsolationLevel)
    (body : Scope → SessionM σ α) : SessionM σ α := do
  let scope ← ds.begin isolation
  let result ← (body scope).outcome
  let ended ← (scope.finish ds.connection result).outcome
  modify fun session => { session with openScopes := session.openScopes.drop 1 }
  MonadExcept.ofExcept ended

def depth : SessionM σ Nat := do
  return (← get).openScopes.length

end DataSource

end EntityStore
