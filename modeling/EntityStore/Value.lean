import EntityStore.Json.Basic
import EntityStore.Calendar.Instant
import EntityStore.Decimal.Reader
import EntityStore.Text.Blank
import EntityStore.Uuid

/-!
# Values

The value of one field of an entity, of one cell of a row or of one parameter of a statement. The
views `asInt?`, `asFloat?` and `asBool?` say which values can stand for a number or a truth value.
-/

namespace EntityStore

open Calendar (Date Instant)

/-- The value of a field. -/
inductive Value where
  | null
  | bool (b : Bool)
  | int (i : Int)
  | float (x : Float)
  | text (s : String)
  | bytes (bs : List UInt8)
  | json (j : Json)
  | date (d : Date)
  | instant (t : Instant)
  deriving BEq, Inhabited

namespace Value

/-- The word for the kind of a value, as it stands in the text of an error. -/
def kind : Value → String
  | null => "null"
  | bool _ => "bool"
  | int _ => "int"
  | float _ => "float"
  | text _ => "text"
  | bytes _ => "bytes"
  | json _ => "json"
  | date _ => "date"
  | instant _ => "datetime"

def isNull : Value → Bool
  | null => true
  | _ => false

/-- The text `s` of `.text s`. -/
def asText? : Value → Option String
  | text s => some s
  | _ => none

/-- The whole number that a value stands for: `true` counts as 1, a double without fractional part
is moved into the range of 64 bits, and a text may have blanks around the number. -/
def asInt? : Value → Option Int
  | int i => some i
  | float x => (Decimal.toInt? x).map Decimal.clampInt64
  | bool b => some (if b then 1 else 0)
  | text s => Text.readInt64? (Text.trim s.toList)
  | _ => none

/-- The double that a value stands for; as in `asInt?`, a text may have blanks around the number. -/
def asFloat? : Value → Option Float
  | int i => some (Float.ofInt i)
  | float x => some x
  | text s => Decimal.read? (Text.trim s.toList)
  | _ => none

/-- The truth value that a value stands for; `.int i` counts as `true` unless `i` is 0. -/
def asBool? : Value → Option Bool
  | bool b => some b
  | int i => some (i != 0)
  | _ => none

end Value

/-- The types whose members can be handed over as a `Value`. -/
class ToValue (α : Type) where
  toValue : α → Value

export ToValue (toValue)

instance : ToValue Value := ⟨id⟩
instance : ToValue Bool := ⟨.bool⟩
instance : ToValue Int := ⟨.int⟩
instance : ToValue Nat := ⟨fun n => .int n⟩
instance : ToValue Int8 := ⟨fun i => .int i.toInt⟩
instance : ToValue Int16 := ⟨fun i => .int i.toInt⟩
instance : ToValue Int32 := ⟨fun i => .int i.toInt⟩
instance : ToValue Int64 := ⟨fun i => .int i.toInt⟩
instance : ToValue UInt8 := ⟨fun i => .int i.toNat⟩
instance : ToValue UInt16 := ⟨fun i => .int i.toNat⟩
instance : ToValue UInt32 := ⟨fun i => .int i.toNat⟩
instance : ToValue Float32 := ⟨fun x => .float x.toFloat⟩
instance : ToValue Float := ⟨.float⟩
instance : ToValue String := ⟨.text⟩
instance : ToValue (List UInt8) := ⟨.bytes⟩
instance : ToValue Json := ⟨.json⟩
instance : ToValue Date := ⟨.date⟩
instance : ToValue Instant := ⟨.instant⟩
instance : ToValue Uuid := ⟨fun u => .text u.text⟩

instance {α : Type} [ToValue α] : ToValue (Option α) := ⟨fun x => (x.map toValue).getD .null⟩

end EntityStore
