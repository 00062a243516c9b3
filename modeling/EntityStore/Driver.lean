import EntityStore.Error
import EntityStore.Record
import EntityStore.Sql

/-!
# Drivers

A driver carries statements to a database and brings rows back. The database is a value of any type:
a driver says what a statement answers and which database it leaves behind. A statement that fails
leaves a database behind, too.
-/

namespace EntityStore

/-- What a driver reports of a statement that changes rows. -/
structure RunResult where
  changes : Option Nat := none
  /-- The number that the database made up for the last inserted row. -/
  lastInsertId : Option Int := none
  success : Option Bool := none
  deriving DecidableEq, Repr, Inhabited

/-- The rows that a query answers: a `bare` list, or the list `results` of an envelope. -/
inductive Rows where
  | bare (rows : List Record)
  | wrapped (results : List Record)

/-- The rows of an answer, `bare` or `wrapped`. -/
def Rows.toList : Rows → List Record
  | bare rows => rows
  | wrapped results => results

/-- What is done at a database of type `σ`: it may fail, and leaves a database behind in either
case. -/
abbrev DatabaseM (σ : Type) := ExceptT Error (StateM σ)

/-- The way to a database of type `σ`. A driver has to know `all` and `run`; `first`, `exec` and
`batch` go through these two where it has no way of its own. -/
structure Driver (σ : Type) where
  /-- The rows that answer a query. -/
  all : Statement → DatabaseM σ Rows
  run : Statement → DatabaseM σ RunResult
  /-- Used by `first` in place of the first row of `all`. -/
  ownFirst : Option (Statement → DatabaseM σ (Option Record)) := none
  /-- Used by `exec` in place of `run`. -/
  ownExec : Option (String → DatabaseM σ Unit) := none
  /-- Whether `submit` hands statements over by `batch`. -/
  supportsBatch : Bool := false
  /-- Used by `batch` in place of `runEach`. -/
  ownBatch : Option (List Statement → DatabaseM σ (List RunResult)) := none
  /-- Whether a session stays open from one statement to the next. -/
  supportsTransactions : Bool := true

namespace Driver

variable {σ : Type}

/-- Run statements one by one, up to the first failure. -/
def runEach (d : Driver σ) : List Statement → DatabaseM σ (List RunResult)
  | [] => return []
  | statement :: rest => do
    let result ← d.run statement
    return result :: (← d.runEach rest)

/-- Hand several statements over together, by `ownBatch` or one by one. -/
def batch (d : Driver σ) (statements : List Statement) : DatabaseM σ (List RunResult) :=
  match d.ownBatch with
  | some own => own statements
  | none => d.runEach statements

/-- Hand statements over by `batch` where the driver `supportsBatch`, and by `runEach` elsewhere. -/
def submit (d : Driver σ) (statements : List Statement) : DatabaseM σ (List RunResult) :=
  if d.supportsBatch then d.batch statements else d.runEach statements

/-- The first row that answers a query, by `ownFirst` or as the first of `all`. -/
def first (d : Driver σ) (statement : Statement) : DatabaseM σ (Option Record) :=
  match d.ownFirst with
  | some own => own statement
  | none => do return (← d.all statement).toList.head?

/-- Execute the statement `sql`, which has no parameters and whose result is not wanted. -/
def exec (d : Driver σ) (sql : String) : DatabaseM σ Unit :=
  match d.ownExec with
  | some own => own sql
  | none => do
    let _ ← d.run (.plain sql)

end Driver

end EntityStore
