import EntityStore.Dialect
import EntityStore.Value

/-!
# Columns

A column has a logical type, from which every dialect derives the type that it stores, and rules for
its values: which of them identify a row, which are made up for a new row, and how they change on
their way to and from the database.
-/

namespace EntityStore

/-- The logical type of a column. -/
inductive ColumnType where
  | string
  | text
  /-- A long text with layout. -/
  | richText
  | int
  | integer
  | bigInt
  | float
  | double
  | decimal
  | numeric
  | boolean
  | uuid
  | json
  | date
  | datetime
  | blob
  deriving DecidableEq, Repr

namespace ColumnType

def names : List (String × ColumnType) :=
  [("string", string), ("text", text), ("richtext", richText), ("int", int), ("integer", integer),
    ("bigint", bigInt), ("float", float), ("double", double), ("decimal", decimal),
    ("numeric", numeric), ("boolean", boolean), ("uuid", uuid), ("json", json), ("date", date),
    ("datetime", datetime), ("blob", blob)]

def name (type : ColumnType) : String :=
  ((names.find? fun entry => entry.2 == type).map Prod.fst).getD ""

/-- The type that `name` calls `text`. -/
def ofName? (text : String) : Option ColumnType := names.lookup text

/-- The type that a family of dialects stores. Booleans are stored as 0 and 1 where the dialect has
no short name for that. -/
def storedIn : Family → ColumnType → String
  | .sqlite, string | .sqlite, text | .sqlite, richText | .sqlite, uuid | .sqlite, json
  | .sqlite, date | .sqlite, datetime => "TEXT"
  | .sqlite, int | .sqlite, integer | .sqlite, bigInt | .sqlite, boolean => "INTEGER"
  | .sqlite, float | .sqlite, double => "REAL"
  | .sqlite, decimal | .sqlite, numeric => "NUMERIC"
  | .sqlite, blob => "BLOB"
  | .mysql, string => "VARCHAR"
  | .mysql, text => "TEXT"
  | .mysql, richText => "LONGTEXT"
  | .mysql, int | .mysql, integer => "INT"
  | .mysql, bigInt => "BIGINT"
  | .mysql, float => "FLOAT"
  | .mysql, double => "DOUBLE"
  | .mysql, decimal | .mysql, numeric => "DECIMAL"
  | .mysql, boolean => "BOOLEAN"
  | .mysql, uuid => "CHAR"
  | .mysql, json => "JSON"
  | .mysql, date => "DATE"
  | .mysql, datetime => "DATETIME"
  | .mysql, blob => "BLOB"
  | .postgres, string => "VARCHAR"
  | .postgres, text | .postgres, richText => "TEXT"
  | .postgres, int | .postgres, integer => "INTEGER"
  | .postgres, bigInt => "BIGINT"
  | .postgres, float => "REAL"
  | .postgres, double => "DOUBLE PRECISION"
  | .postgres, decimal | .postgres, numeric => "NUMERIC"
  | .postgres, boolean => "SMALLINT"
  | .postgres, uuid => "UUID"
  | .postgres, json => "JSONB"
  | .postgres, date => "DATE"
  | .postgres, datetime => "TIMESTAMPTZ"
  | .postgres, blob => "BYTEA"

def isWhole : ColumnType → Bool
  | int | integer | bigInt => true
  | _ => false

end ColumnType

/-- How a missing value is made up for a new row. -/
inductive Generation where
  | increment
  /-- A random identifier is drawn before the row is inserted. -/
  | uuid
  deriving DecidableEq, Repr

def Generation.name : Generation → String
  | increment => "increment"
  | uuid => "uuid"

/-- The way to make up values that `name` calls `text`. -/
def Generation.ofName? (text : String) : Option Generation :=
  [increment, uuid].find? fun generation => generation.name == text

/-- A change of values on their way to and from the database. It is not asked about `Value.null`. -/
structure Transformer where
  toStorage : Value → Value := id
  ofStorage : Value → Value := id

/-- A column of a table. -/
structure Column where
  name : String
  type : ColumnType
  /-- Whether the column identifies rows. -/
  primary : Bool := false
  unique : Bool := false
  /-- If it is `none`, the database decides. -/
  nullable : Option Bool := none
  default? : Option Value := none
  generation : Option Generation := none
  /-- In the order in which they are asked on the way to the database. -/
  transformers : List Transformer := []
  length : Option Nat := none
  precision : Option Nat := none
  scale : Option Nat := none
  comment : Option String := none
  /-- The types to store in place of `ColumnType.storedIn`, one for each family. -/
  sqliteType : Option String := none
  mysqlType : Option String := none
  postgresType : Option String := none

namespace Column

/-- A primary column whose values are made up. -/
def primaryGenerated (name : String) (generation : Generation) : Column where
  name := name
  type := match generation with
    | .increment => .integer
    | .uuid => .uuid
  primary := true
  generation := some generation

/-- The type that `c` states for a family, if any. -/
def override (c : Column) : Family → Option String
  | .sqlite => c.sqliteType
  | .mysql => c.mysqlType
  | .postgres => c.postgresType

def setOverride (c : Column) (family : Family) (type : String) : Column :=
  match family with
  | .sqlite => { c with sqliteType := some type }
  | .mysql => { c with mysqlType := some type }
  | .postgres => { c with postgresType := some type }

/-- The type that a dialect stores: the `override` of its family, or else `ColumnType.storedIn`. -/
def storedType (c : Column) (d : Dialect) : String :=
  (c.override d.family).getD (c.type.storedIn d.family)

def isIncrement (c : Column) : Bool := c.generation == some .increment

def isUuid (c : Column) : Bool := c.generation == some .uuid

end Column

end EntityStore
