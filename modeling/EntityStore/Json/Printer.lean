import EntityStore.Json.Basic
import EntityStore.Decimal.Layout

/-!
# Writing JSON

The compact text of a JSON value: no blanks, members in the order in which the value holds them,
quotes, backslashes and control characters escaped, every other character as it is.
-/

namespace EntityStore.Json

/-- At least one digit stands after the point. There is an exponent when the leading digit stands
sixteen or more places before it or six or more places after it. -/
def numberStyle : Decimal.Style where
  scientific e := e < -5 || 16 ≤ e
  pointZero := true
  tie := .even

/-- In lower case. -/
def hexDigit (n : Nat) : Char := Nat.digitChar (n % 16)

/-- A character inside a quoted text. -/
def escapeChar (c : Char) : List Char :=
  if c = '"' then ['\\', '"']
  else if c = '\\' then ['\\', '\\']
  else if c = '\x08' then ['\\', 'b']
  else if c = '\t' then ['\\', 't']
  else if c = '\n' then ['\\', 'n']
  else if c = '\x0c' then ['\\', 'f']
  else if c = '\r' then ['\\', 'r']
  else if c.toNat < 0x20 then ['\\', 'u', '0', '0', hexDigit (c.toNat / 16), hexDigit c.toNat]
  else [c]

def quoteChars (cs : List Char) : List Char := '"' :: (cs.flatMap escapeChar ++ ['"'])

def intChars (i : Int) : List Char :=
  if i < 0 then '-' :: Nat.toDigits 10 i.natAbs else Nat.toDigits 10 i.natAbs

mutual

def chars : Json → List Char
  | .null => ['n', 'u', 'l', 'l']
  | .bool true => ['t', 'r', 'u', 'e']
  | .bool false => ['f', 'a', 'l', 's', 'e']
  | .int i => intChars i
  | .float x => Decimal.write numberStyle x
  | .string s => quoteChars s.toList
  | .array [] => ['[', ']']
  | .array (item :: rest) => '[' :: (item.chars ++ itemChars rest)
  | .object [] => ['\x7b', '\x7d']
  | .object ((key, value) :: rest) =>
    '\x7b' :: (quoteChars key.toList ++ ':' :: (value.chars ++ memberChars rest))

/-- The items that follow the first one, and the bracket that ends the array. -/
def itemChars : List Json → List Char
  | [] => [']']
  | item :: rest => ',' :: (item.chars ++ itemChars rest)

/-- The members that follow the first one, and the brace that ends the object. -/
def memberChars : List (String × Json) → List Char
  | [] => ['\x7d']
  | (key, value) :: rest =>
    ',' :: (quoteChars key.toList ++ ':' :: (value.chars ++ memberChars rest))

end

/-- The text of `j` without blanks. -/
def compact (j : Json) : String := String.ofList j.chars

end EntityStore.Json
