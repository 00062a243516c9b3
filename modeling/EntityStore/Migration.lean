import EntityStore.Transaction

/-!
# Migrations

A migration is a change of the database that can be taken back, identified by a timestamp. It is
made in a transaction of its own.
-/

namespace EntityStore

/-- A change of the database. -/
structure Migration (σ : Type) where
  /-- Decides the order of migrations. -/
  timestamp : Int
  name : String
  /-- How the change is made, in a scope that `runTimed` begins and ends for it. -/
  up : Connection σ → Scope → SessionM σ Unit
  /-- How the change is taken back. -/
  down : Connection σ → Scope → SessionM σ Unit

variable {σ : Type}

/-- Run `body` in a transaction of its own, and answer how many milliseconds it took. -/
def runTimed (c : Connection σ) (body : Connection σ → Scope → SessionM σ Unit) :
    SessionM σ Int := do
  let started ← SessionM.stopwatch
  let scope ← Scope.root none false
  scope.run c (body c)
  let stopped ← SessionM.stopwatch
  return ((stopped - started : Nat) : Int)

namespace Migration

def runUp (m : Migration σ) (c : Connection σ) : SessionM σ Int := runTimed c m.up

def runDown (m : Migration σ) (c : Connection σ) : SessionM σ Int := runTimed c m.down

end Migration

/-- A migration in the history of a database; its `executionTime` is in milliseconds. -/
structure ExecutedMigration where
  timestamp : Int
  name : String
  executedAt : Option Calendar.Instant
  executionTime : Int
  deriving DecidableEq

/-- A declared migration, and what the history tells of it. -/
structure MigrationStatus where
  timestamp : Int
  name : String
  executed : Bool
  executedAt : Option Calendar.Instant
  executionTime : Option Int
  deriving DecidableEq

end EntityStore
