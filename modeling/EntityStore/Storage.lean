import EntityStore.Calendar.Printer
import EntityStore.Calendar.Reader
import EntityStore.Column
import EntityStore.Json.Printer
import EntityStore.Json.Reader
import EntityStore.Record

/-!
# Storage forms

The form in which a column stores a value, and the way back. On the way to the database the
transformers of the column come first, in order, and then the rule of its type; on the way back they
come last and in reverse. The null value is stored as it is, and so is what belongs to no column.
-/

namespace EntityStore

/-- A value as JSON. A text, a date or an instant is quoted, and bytes are a list of numbers. -/
def Value.asJson : Value → Json
  | .null => .null
  | .bool b => .bool b
  | .int i => .int i
  | .float x => .ofFloat x
  | .text s => .string s
  | .bytes bs => .array (bs.map fun b => .int b.toNat)
  | .json j => j
  | .date d => .string d.text
  | .instant t => .string t.text

namespace ColumnType

/-- The form in which values of a type are stored. -/
def toStorage : ColumnType → Value → Value
  | json, .null => .null
  | json, .text s => .text s
  | json, v => .text v.asJson.compact
  | boolean, .bool b => .int (if b then 1 else 0)
  | date, .instant t | datetime, .instant t => .text t.text
  | date, .date d | datetime, .date d => .text d.text
  | _, v => v

/-- The truth value that a stored text means. -/
def storedBool? (s : String) : Option Bool :=
  let word := s.toList.map Char.toLower
  if s = "1" ∨ word = "true".toList then some true
  else if s = "0" ∨ word = "false".toList then some false
  else none

/-- The date or instant that a stored text means. -/
def storedDate? (s : String) : Option Value :=
  match Calendar.Date.read? s.toList with
  | some d => some (.date d)
  | none => (Calendar.Instant.read? s.toList).map .instant

/-- The value of a type that a stored form means; a form that means none is kept. -/
def ofStorage : ColumnType → Value → Value
  | json, .text s => ((Json.read? s).map Value.json).getD (.text s)
  | boolean, .int i => .bool (i != 0)
  | boolean, .float x => .bool (x != 0.0)
  | boolean, .text s => ((storedBool? s).map Value.bool).getD (.text s)
  | date, .text s => (storedDate? s).getD (.text s)
  | datetime, .text s => ((Calendar.Instant.read? s.toList).map Value.instant).getD (.text s)
  | _, v => v

end ColumnType

namespace Column

/-- The form in which `c` stores a value: the transformers are asked first, and then the type. -/
def toStorage (c : Column) (v : Value) : Value :=
  if v.isNull then v
  else c.type.toStorage (c.transformers.foldl (fun v transformer => transformer.toStorage v) v)

/-- The value that a form stored in `c` means: the type is asked first, and then the
transformers. -/
def ofStorage (c : Column) (v : Value) : Value :=
  if v.isNull then v
  else c.transformers.foldr (fun transformer v => transformer.ofStorage v) (c.type.ofStorage v)

end Column

/-- The form in which `v` is stored; without a column it is `v` itself. -/
def toStorage (c : Option Column) (v : Value) : Value := (c.map (·.toStorage v)).getD v

/-- The value that the stored `v` means; without a column it is `v` itself. -/
def ofStorage (c : Option Column) (v : Value) : Value := (c.map (·.ofStorage v)).getD v

/-- The stored forms of the fields of `r`, those without a column as they are. -/
def Record.toStorage (columns : List Column) (r : Record) : Record :=
  r.mapValues fun name value => EntityStore.toStorage (columns.find? (·.name == name)) value

/-- The values that the fields of a row `r` mean, those without a column as they are. -/
def Record.ofStorage (columns : List Column) (r : Record) : Record :=
  r.mapValues fun name value => EntityStore.ofStorage (columns.find? (·.name == name)) value

end EntityStore
