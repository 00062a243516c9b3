import EntityStore.Json.Token

/-!
# Reading JSON

Tokens are put together to a value by a machine with a stack: `Frame` is an array or object that is
still open, `Stage` says what the innermost one waits for.

A text is read with one of two degrees of care. With full care it is refused when a token has no
value, or when more than `maxDepth` arrays and objects stand inside one another. In outline, only
the keys of the outermost object need a value: this is for a caller who looks at few of the members.
-/

namespace EntityStore.Json

/-- An array or object that is still open, with the parts read so far in reverse. -/
inductive Frame where
  | array (items : List Json)
  | object (members : List (String × Json))
  /-- An object with a `key` that waits for its value. -/
  | member (members : List (String × Json)) (key : String)

/-- What the innermost open array or object waits for. -/
inductive Stage where
  | value
  /-- A value, or the end of an array that is still empty. -/
  | valueOrEnd
  | key
  /-- A key, or the end of an object that is still empty. -/
  | keyOrEnd
  | colon
  /-- A comma, or the end of the array or object. -/
  | more
  /-- Nothing: the value `j` is complete. -/
  | done (j : Json)

/-- The open arrays and objects, innermost first, and what the innermost waits for. -/
structure Machine where
  frames : List Frame
  stage : Stage

/-- Hand the complete value `j` to the innermost of the open `frames`. -/
def Machine.place (frames : List Frame) (j : Json) : Option Machine :=
  match frames with
  | [] => some ⟨[], .done j⟩
  | .array items :: rest => some ⟨.array (j :: items) :: rest, .more⟩
  | .member members key :: rest => some ⟨.object ((key, j) :: members) :: rest, .more⟩
  | .object _ :: _ => none

/-- How much of a text is needed. -/
inductive Care where
  | full
  /-- The keys of the outermost object. Elsewhere `null` stands for a value that cannot be read, and
  an empty key for such a key. -/
  | outline
  deriving DecidableEq

/-- What a token holds, or the `substitute` if it holds nothing and nothing is `needed`. -/
def Care.fill {α : Type} (care : Care) (needed : Bool) (substitute : α) : Option α → Option α
  | some a => some a
  | none => if care = .full || needed then none else some substitute

/-- Open an array or object, unless `maxDepth` of them are open. -/
def Machine.enter (care : Care) (frames : List Frame) (frame : Frame) (stage : Stage) :
    Option Machine :=
  if frames.length < maxDepth || care = .outline then some ⟨frame :: frames, stage⟩ else none

/-- Read the first token of a value. -/
def Machine.startValue (care : Care) (frames : List Frame) : Token → Option Machine
  | .openArray => enter care frames (.array []) .valueOrEnd
  | .openObject => enter care frames (.object []) .keyOrEnd
  | .text cs => do
    place frames (← care.fill false .null (cs.map fun cs => .string (String.ofList cs)))
  | .scalar j => do place frames (← care.fill false .null j)
  | _ => none

/-- Read a key of the innermost object. -/
def Machine.startMember (care : Care) (frames : List Frame) : Token → Option Machine
  | .text cs => match frames with
    | .object members :: rest => do
      let key ← care.fill rest.isEmpty "" (cs.map String.ofList)
      return ⟨.member members key :: rest, .colon⟩
    | _ => none
  | _ => none

/-- Read the end of the innermost array or object. -/
def Machine.close (frames : List Frame) (token : Token) : Option Machine :=
  match frames, token with
  | .array items :: rest, .closeArray => place rest (.array items.reverse)
  | .object members :: rest, .closeObject => place rest (.object members.reverse)
  | _, _ => none

/-- Read the comma that promises another item or member. -/
def Machine.continue (frames : List Frame) : Option Machine :=
  match frames with
  | .array _ :: _ => some ⟨frames, .value⟩
  | .object _ :: _ => some ⟨frames, .key⟩
  | _ => none

def Machine.step (care : Care) (m : Machine) (token : Token) : Option Machine :=
  match m.stage, token with
  | .value, _ => startValue care m.frames token
  | .valueOrEnd, .closeArray => close m.frames token
  | .valueOrEnd, _ => startValue care m.frames token
  | .key, _ => startMember care m.frames token
  | .keyOrEnd, .closeObject => close m.frames token
  | .keyOrEnd, _ => startMember care m.frames token
  | .colon, .colon => some ⟨m.frames, .value⟩
  | .more, .comma => Machine.continue m.frames
  | .more, _ => close m.frames token
  | _, _ => none

def Machine.run (care : Care) (m : Machine) : List Token → Option Json
  | [] => match m.stage with
    | .done j => some j
    | _ => none
  | token :: rest => do
    let next ← m.step care token
    next.run care rest

/-- The value of a text, with the members of objects as they are written. -/
def readAsWritten? (care : Care) (cs : List Char) : Option Json := do
  let tokens ← Mode.between.tokens cs
  Machine.run care ⟨[], .value⟩ tokens

/-- The value of `text`, in `canonical` form. -/
def read? (text : String) : Option Json := (readAsWritten? .full text.toList).map canonical

end EntityStore.Json
