import EntityStore.Record

/-!
# Reading fields of a record

The types that an entity can have for a field, and which values each of them accepts. A field of a
record is read by taking it off the record, so that what remains is what no one asked for.
-/

namespace EntityStore

open Calendar (Date Instant)

/-- The types whose members can be read from a `Value`. -/
class OfValue (α : Type) where
  ofValue : Value → Except Error α

export OfValue (ofValue)

/-- The error for `v` where something else was `expected`. -/
def mismatch (expected : String) (v : Value) : Error :=
  .mapping ("expected " ++ expected ++ ", got " ++ v.kind)

/-- Read `v` by a `view`; where it fails, the error names what was `expected`. -/
def readAs {α : Type} (expected : String) (view : Value → Option α) (v : Value) : Except Error α :=
  match view v with
  | some a => .ok a
  | none => .error (mismatch expected v)

instance : OfValue Value := ⟨.ok⟩

instance : OfValue Int := ⟨readAs "integer" Value.asInt?⟩

instance : OfValue Float := ⟨readAs "float" Value.asFloat?⟩

instance : OfValue Bool := ⟨readAs "bool" Value.asBool?⟩

/-- Read as a whole number, which has to be in the range of 32 bits. -/
instance : OfValue Int32 where
  ofValue v := do
    let i ← ofValue (α := Int) v
    if Int32.maxValue.toInt < i then throw (.mapping "number too large to fit in target type")
    else if i < Int32.minValue.toInt then throw (.mapping "number too small to fit in target type")
    else return Int32.ofInt i

/-- The text that a value can be used as: also the digits of `.int i`, and the text of a JSON
string. -/
def Value.text? : Value → Option String
  | .text s => some s
  | .int i => some (toString i)
  | .json (.string s) => some s
  | _ => none

def Value.json? : Value → Option Json
  | .json j => some j
  | .text s => some (.string s)
  | .int i => some (.int i)
  | .float x => some (.ofFloat x)
  | .bool b => some (.bool b)
  | _ => none

def Value.instant? : Value → Option Instant
  | .instant t => some t
  | _ => none

/-- The date that a value is, or the one of an instant. -/
def Value.date? : Value → Option Date
  | .date d => some d
  | .instant t => some t.date
  | _ => none

instance : OfValue String := ⟨readAs "text" Value.text?⟩

instance : OfValue Json := ⟨readAs "json" Value.json?⟩

instance : OfValue Instant := ⟨readAs "datetime" Value.instant?⟩

instance : OfValue Date := ⟨readAs "date" Value.date?⟩

/-- A field that may be absent is `none` where the value is `Value.null`. -/
instance {α : Type} [OfValue α] : OfValue (Option α) where
  ofValue v := if v.isNull then .ok none else (ofValue v).map some

namespace Record

/-- Take the field `name` off `r`; an absent one is `Value.null`. -/
def take (r : Record) (name : String) : Except Error Value × Record :=
  match r.get? name with
  | some value => (.ok value, r.erase name)
  | none => (.error (.mapping ("missing column '" ++ name ++ "'")), r)

/-- Take the field `name` off `r` and read it as an `α`. The field is gone also when it cannot be
read. -/
def takeAs (α : Type) [OfValue α] (r : Record) (name : String) : Except Error α × Record :=
  let read := match ofValue ((r.get? name).getD .null) with
    | .ok a => .ok a
    | .error e => .error (.mapping ("column '" ++ name ++ "': " ++ e.message))
  (read, r.erase name)

end Record

end EntityStore
