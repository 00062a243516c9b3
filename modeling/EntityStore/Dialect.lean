/-!
# Dialects

The variants of SQL that statements are written in, and the ways in which they differ. Dialects of
one family name types and resolve conflicts alike.
-/

namespace EntityStore

/-- A variant of SQL. -/
inductive Dialect where
  | sqlite
  /-- Follows the rules of `sqlite`. -/
  | d1
  | mysql
  | postgres
  deriving DecidableEq, Repr, Inhabited

/-- Dialects with the same types and the same conflict clauses. -/
inductive Family where
  | sqlite
  | mysql
  | postgres
  deriving DecidableEq, Repr

/-- How far a transaction is kept apart from others that run at the same time. -/
inductive IsolationLevel where
  | readUncommitted
  | readCommitted
  | repeatableRead
  | serializable
  deriving DecidableEq, Repr

namespace IsolationLevel

def name : IsolationLevel → String
  | readUncommitted => "READ_UNCOMMITTED"
  | readCommitted => "READ_COMMITTED"
  | repeatableRead => "REPEATABLE_READ"
  | serializable => "SERIALIZABLE"

/-- The level that `name` calls `text`. -/
def ofName? (text : String) : Option IsolationLevel :=
  [readUncommitted, readCommitted, repeatableRead, serializable].find? fun level =>
    level.name == text

end IsolationLevel

namespace Dialect

def family : Dialect → Family
  | sqlite | d1 => .sqlite
  | mysql => .mysql
  | postgres => .postgres

def name : Dialect → String
  | sqlite => "sqlite"
  | d1 => "d1"
  | mysql => "mysql"
  | postgres => "postgres"

def all : List Dialect := [sqlite, d1, mysql, postgres]

/-- The dialect that `name` calls `text`, or for which `text` is another name in use. -/
def ofName? (text : String) : Option Dialect :=
  if text = "mariadb" then some mysql
  else if text = "postgresql" ∨ text = "pg" then some postgres
  else all.find? fun dialect => dialect.name == text

/-- The text that stands for the parameter of the given `number`, counted from 1. -/
def placeholder (d : Dialect) (number : Nat) : String :=
  match d.family with
  | .postgres => "$" ++ toString number
  | .sqlite | .mysql => "?"

/-- The statement that inserts a row of defaults into a `table`. -/
def insertDefaults (d : Dialect) (table : String) : String :=
  match d.family with
  | .mysql => "INSERT INTO " ++ table ++ " () VALUES ()"
  | .sqlite | .postgres => "INSERT INTO " ++ table ++ " DEFAULT VALUES"

def begin (d : Dialect) : String :=
  match d.family with
  | .sqlite => "BEGIN TRANSACTION"
  | .mysql => "START TRANSACTION"
  | .postgres => "BEGIN"

/-- The statement before the beginning of a transaction that is `IsolationLevel.readUncommitted`. -/
def readUncommitted (d : Dialect) : String :=
  match d.family with
  | .sqlite => "PRAGMA read_uncommitted = 1"
  | .mysql => "SET TRANSACTION ISOLATION LEVEL READ UNCOMMITTED"
  | .postgres => "SET SESSION CHARACTERISTICS AS TRANSACTION ISOLATION LEVEL READ UNCOMMITTED"

/-- The statement that sets an isolation level; only `readUncommitted` has one. -/
def isolation? (d : Dialect) : IsolationLevel → Option String
  | .readUncommitted => some d.readUncommitted
  | .readCommitted | .repeatableRead | .serializable => none

/-- The word for `Comparison.ilike`. -/
def ilike (d : Dialect) : String :=
  match d.family with
  | .postgres => "ILIKE"
  | .sqlite | .mysql => "LIKE"

end Dialect

end EntityStore
