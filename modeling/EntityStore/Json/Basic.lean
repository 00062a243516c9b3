import EntityStore.Text.Numeral

/-!
# JSON values

A JSON value in memory. The members of an object are kept as a list; the canonical form lists them
in ascending order of their keys, each key once, which is the form that every reader of this library
hands out and every printer writes.
-/

namespace EntityStore

/-- A JSON value. -/
inductive Json where
  | null
  | bool (b : Bool)
  /-- A whole number, between the least signed and the greatest unsigned integer of 64 bits. -/
  | int (i : Int)
  /-- Any other number, which is finite. -/
  | float (x : Float)
  | string (s : String)
  | array (items : List Json)
  | object (members : List (String × Json))
  deriving BEq, Inhabited

namespace Json

/-- The greatest number of arrays and objects that may stand inside one another in a text. -/
def maxDepth : Nat := 127

/-- A double as a value; infinities and `NaN` become `null`. -/
def ofFloat (x : Float) : Json := if x.isFinite then .float x else .null

/-- Put a member at its place among members in ascending order of keys. The value of `key` is
replaced if it is there. -/
def insertMember (key : String) (value : Json) : List (String × Json) → List (String × Json)
  | [] => [(key, value)]
  | (k, v) :: rest =>
    if key < k then (key, value) :: (k, v) :: rest
    else if key = k then (key, value) :: rest
    else (k, v) :: insertMember key value rest

/-- Put `members` into ascending order of keys; of equal keys the last one counts. -/
def sortMembers (members : List (String × Json)) : List (String × Json) :=
  members.foldl (fun sorted m => insertMember m.1 m.2 sorted) []

mutual

/-- The value with the members of every object in canonical order. -/
def canonical : Json → Json
  | .array items => .array (canonicalItems items)
  | .object members => .object (sortMembers (canonicalMembers members))
  | other => other

def canonicalItems : List Json → List Json
  | [] => []
  | item :: rest => item.canonical :: canonicalItems rest

def canonicalMembers : List (String × Json) → List (String × Json)
  | [] => []
  | (key, value) :: rest => (key, value.canonical) :: canonicalMembers rest

end

end Json

end EntityStore
