import EntityStore.Storage
import EntityStore.Table

/-!
# Table definitions

The statement that creates the table of an entity, if there is none of its name yet.
-/

namespace EntityStore

/-- Neither an exponent nor a point after a whole number is written. -/
def defaultStyle : Decimal.Style where
  scientific _ := false
  pointZero := false
  tie := .away

/-- A literal for a text: a quote in `cs` is written twice. -/
def quoted (cs : List Char) : List Char :=
  '\'' :: (cs.flatMap (fun c => if c = '\'' then ['\'', '\''] else [c]) ++ ['\''])

/-- The literal for a default. A value that is neither a number nor a text is written as JSON
text. -/
def Value.literal : Value → List Char
  | .null => ['N', 'U', 'L', 'L']
  | .int i => Json.intChars i
  | .float x => Decimal.write defaultStyle x
  | .bool b => [if b then '1' else '0']
  | .text s => quoted s.toList
  | v => quoted v.asJson.chars

namespace Column

/-- The clauses that follow the name and the type of a column. -/
def clauses (c : Column) : List String :=
  (if c.primary then ["PRIMARY KEY"] else []) ++ (if c.unique then ["UNIQUE"] else []) ++
  (if c.nullable = some false then ["NOT NULL"] else []) ++
  (match c.default? with
    | some v => ["DEFAULT " ++ String.ofList v.literal]
    | none => [])

def define (c : Column) (type : String) (clauses : List String) : String :=
  " ".intercalate (c.name :: type :: clauses)

/-- The type of a column in MySQL, with the sizes that it has to state. -/
def sizedType (c : Column) : String :=
  let base := c.storedType .mysql
  if base = "VARCHAR" ∨ base = "CHAR" then
    let usual := if base = "CHAR" ∧ c.type = .uuid then 36 else 255
    base ++ "(" ++ toString (c.length.getD usual) ++ ")"
  else if base = "DECIMAL" then
    "DECIMAL(" ++ toString (c.precision.getD 10) ++ "," ++ toString (c.scale.getD 2) ++ ")"
  else base

/-- The definition of a column. A primary column that the database counts up has a short form where
the dialect offers one. -/
def definition (c : Column) (d : Dialect) : String :=
  let counted := c.primary && c.isIncrement
  match d.family with
  | .sqlite =>
    if counted && c.storedType d == "INTEGER" then
      c.name ++ " INTEGER PRIMARY KEY AUTOINCREMENT"
    else c.define (c.storedType d) c.clauses
  | .postgres =>
    if counted && c.postgresType.isNone && c.type.isWhole then
      c.name ++ (if c.type = .bigInt then " BIGSERIAL" else " SERIAL") ++ " PRIMARY KEY"
    else c.define (c.storedType d) c.clauses
  | .mysql =>
    c.define c.sizedType (c.clauses ++ (if c.isIncrement then ["AUTO_INCREMENT"] else []))

end Column

/-- The statement that creates `t`, if there is no table of its name. -/
def Table.createStatement (t : Table) (d : Dialect) : String :=
  "CREATE TABLE IF NOT EXISTS " ++ t.name ++ " (" ++
    ", ".intercalate (t.columns.map (·.definition d)) ++ ")"

end EntityStore
