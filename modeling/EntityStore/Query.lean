import EntityStore.Condition
import EntityStore.Table

/-!
# Queries

What is to be read from a table, put together step by step: the expressions to select, the tables to
join, which rows are wanted, how they are grouped and in which order they come.
-/

namespace EntityStore

inductive Direction where
  | asc
  | desc
  deriving DecidableEq, Repr

def Direction.word : Direction → String
  | asc => "ASC"
  | desc => "DESC"

/-- Which rows without a partner a join keeps. -/
inductive JoinKind where
  | inner
  /-- Those of the tables before it. -/
  | left
  /-- Those of the joined table. -/
  | right
  deriving DecidableEq, Repr

def JoinKind.word : JoinKind → String
  | inner => "INNER"
  | left => "LEFT"
  | right => "RIGHT"

/-- A `table` that is joined under a `name`. -/
structure Join where
  kind : JoinKind
  table : String
  name : String
  /-- The text of the condition under which rows belong together. -/
  condition : String
  deriving DecidableEq, Repr

/-- What is to be read from a `table`. -/
structure Query where
  table : Table
  /-- The name under which the query uses `table`, if not its own. -/
  rename : Option String := none
  /-- All columns are selected if there are none. -/
  selected : List String := []
  filter : Option Filter := none
  joins : List Join := []
  groups : List String := []
  /-- Lets groups through as `filter` does rows. -/
  having : Option Filter := none
  /-- The columns that decide the order, the most important first. -/
  order : List (String × Direction) := []
  limit : Option Nat := none
  offset : Option Nat := none

namespace Query

/-- The name under which the query uses its table. -/
def root (q : Query) : String := q.rename.getD q.table.name

def renamed (q : Query) (name : String) : Query := { q with rename := some name }

/-- Select `expressions`, in place of those selected so far. -/
def select (q : Query) (expressions : List String) : Query := { q with selected := expressions }

def addSelect (q : Query) (expressions : List String) : Query :=
  { q with selected := q.selected ++ expressions }

def filtered (q : Query) (filter : Filter) : Query := { q with filter := some filter }

def groupBy (q : Query) (columns : List String) : Query := { q with groups := q.groups ++ columns }

def groupsFiltered (q : Query) (filter : Filter) : Query := { q with having := some filter }

/-- Order rows that are equal so far by a further `column`. -/
def orderBy (q : Query) (column : String) (direction : Direction) : Query :=
  { q with order := q.order ++ [(column, direction)] }

def limited (q : Query) (count : Nat) : Query := { q with limit := some count }

def skipping (q : Query) (count : Nat) : Query := { q with offset := some count }

def join (q : Query) (kind : JoinKind) (table name condition : String) : Query :=
  { q with joins := q.joins ++ [⟨kind, table, name, condition⟩] }

/-- Join a table and select its columns beside those selected so far. If there are none, the columns
of the `root` are selected, too. -/
def joinSelecting (q : Query) (kind : JoinKind) (table name condition : String) : Query :=
  let before := if q.selected.isEmpty then [q.root ++ ".*"] else q.selected
  { q with selected := before ++ [name ++ ".*"] }.join kind table name condition

end Query

end EntityStore
