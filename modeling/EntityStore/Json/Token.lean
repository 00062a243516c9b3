import EntityStore.Json.Basic
import EntityStore.Decimal.Reader

/-!
# The tokens of a JSON text

A text is cut into tokens by a machine that reads one character at a time. `Mode` says what the
machine is in the middle of; `Mode.step` reads a character and may complete tokens.

The four blanks of JSON separate tokens. Inside quotes, control characters are refused. Two kinds of
tokens have the form of a token and no value: a text in which the escape of one half of a character
pair stands without the other half, and a number beyond the range of doubles.
-/

namespace EntityStore.Json

/-- A token of a JSON text. -/
inductive Token where
  | openArray
  | closeArray
  | openObject
  | closeObject
  | comma
  | colon
  /-- A quoted text; `none` if it has an escape without a character. -/
  | text (cs : Option (List Char))
  /-- A number or one of `null`, `true` and `false`; `none` for a number beyond the range of
  doubles. -/
  | scalar (j : Option Json)

/-- What the machine is in the middle of. Characters read so far are held in reverse; those of a
text without value are forgotten. -/
inductive Mode where
  | between
  | word (seen : List Char)
  /-- Inside quotes. -/
  | quoted (seen : Option (List Char))
  | escape (seen : Option (List Char))
  /-- Inside quotes, in the four hexadecimal digits of an escape: the value and the count so far,
  and the first half of a pair if one has just been read. -/
  | hex (seen : Option (List Char)) (high : Option Nat) (value : Nat) (count : Nat)
  /-- Inside quotes, after the first half `high` of a pair, which a backslash has to follow. -/
  | pair (seen : Option (List Char)) (high : Nat)
  /-- Inside quotes, after the first half `high` of a pair and a backslash, which a `u` has to
  follow. -/
  | pairEscape (seen : Option (List Char)) (high : Nat)

/-! ## Numbers and literal names -/

/-- The double that a number denotes: its leading digits, as many as fit an unsigned integer of 64
bits, are converted first and then scaled by a power of ten, dividing by at most `10 ^ 308` at a
time. -/
def scaleFloat (significand : Nat) (exponent : Int) : Option Float :=
  let x := Float.ofNat significand
  if exponent < 0 then
    let places := exponent.natAbs
    if places ≤ 308 then some (x / Float.ofScientific 1 false places)
    else if places ≤ 616 then
      some (x / Float.ofScientific 1 false 308 / Float.ofScientific 1 false (places - 308))
    else some 0.0
  else if significand = 0 then some 0.0
  else if 308 < exponent then none
  else
    let scaled := x * Float.ofScientific 1 false exponent.toNat
    if scaled.isInf then none else some scaled

/-- The leading digits that still fit an unsigned integer of 64 bits when `acc` stands before them,
and the digits that do not. -/
def takeDigits (acc : Nat) : List Char → Nat × List Char
  | [] => (acc, [])
  | c :: cs =>
    let next := acc * 10 + (c.toNat - '0'.toNat)
    if next ≤ Text.count64Max then takeDigits next cs else (acc, c :: cs)

/-- A number with a fraction or an exponent, or too long for 64 bits. Digits of the fraction count
only as far as they still fit beside the whole digits. -/
def readFloat? (whole fraction : List Char) (exponent : Int) : Option Float :=
  let (head, dropped) := takeDigits 0 whole
  let (significand, rest) := takeDigits head fraction
  let kept := fraction.length - rest.length
  scaleFloat significand (exponent + dropped.length - kept)

/-- The number that `word` denotes, if it has the form of a JSON number: no superfluous leading
zero, digits on both sides of a point, digits in an exponent. The inner `none` is for a number
beyond the range of doubles. -/
def readNumber? (word : List Char) : Option (Option Json) :=
  let (negative, unsigned) := match word with
    | '-' :: cs => (true, cs)
    | cs => (false, cs)
  let whole := unsigned.takeWhile Char.isDigit
  let afterWhole := unsigned.dropWhile Char.isDigit
  let signed (x : Float) : Json := .float (if negative then -x else x)
  if whole.isEmpty || (whole.head? = some '0' && 1 < whole.length) then none
  else match afterWhole with
    | [] =>
      let n := Text.ofDigits whole
      if negative then
        if 0 < n && Text.fitsInt64 (-(n : Int)) then some (some (.int (-(n : Int))))
        else some ((readFloat? whole [] 0).map signed)
      else if n ≤ Text.count64Max then some (some (.int n))
      else some ((readFloat? whole [] 0).map signed)
    | '.' :: cs =>
      let fraction := cs.takeWhile Char.isDigit
      if fraction.isEmpty then none
      else do
        let exponent ← Decimal.readExponent? (cs.dropWhile Char.isDigit)
        return (readFloat? whole fraction exponent).map signed
    | cs => do
      let exponent ← Decimal.readExponent? cs
      return (readFloat? whole [] exponent).map signed

/-- The token that `word` is, if it is a number or one of `null`, `true` and `false`. -/
def readWord? (word : List Char) : Option Token :=
  match String.ofList word with
  | "null" => some (.scalar (some .null))
  | "true" => some (.scalar (some (.bool true)))
  | "false" => some (.scalar (some (.bool false)))
  | _ => (readNumber? word).map .scalar

/-! ## The machine -/

def isSpace (c : Char) : Bool := c = ' ' || c = '\t' || c = '\n' || c = '\r'

/-- The token that one character is. -/
def Token.ofChar? (c : Char) : Option Token :=
  if c = '[' then some .openArray
  else if c = ']' then some .closeArray
  else if c = '\x7b' then some .openObject
  else if c = '\x7d' then some .closeObject
  else if c = ',' then some .comma
  else if c = ':' then some .colon
  else none

/-- Read a character between tokens. -/
def Mode.start (c : Char) : List Token × Mode :=
  if isSpace c then ([], .between)
  else if c = '"' then ([], .quoted (some []))
  else match Token.ofChar? c with
    | some token => ([token], .between)
    | none => ([], .word [c])

def endsWord (c : Char) : Bool := isSpace c || c = '"' || (Token.ofChar? c).isSome

/-- The character that `c` stands for after a backslash. -/
def unescape? (c : Char) : Option Char :=
  if c = '"' || c = '\\' || c = '/' then some c
  else if c = 'b' then some '\x08'
  else if c = 'f' then some '\x0c'
  else if c = 'n' then some '\n'
  else if c = 'r' then some '\r'
  else if c = 't' then some '\t'
  else none

/-- What follows a complete escape of four digits. The first half of a pair waits for the second
one; a half without the other one leaves the text without value. -/
def Mode.ofUnit (seen : Option (List Char)) (high : Option Nat) (unit : Nat) : Mode :=
  let isHigh := 0xD800 ≤ unit && unit < 0xDC00
  let isLow := 0xDC00 ≤ unit && unit < 0xE000
  let add (code : Nat) : Mode := .quoted (seen.map (Char.ofNat code :: ·))
  match high with
  | some first =>
    if isLow then add (0x10000 + (first - 0xD800) * 0x400 + (unit - 0xDC00)) else .quoted none
  | none =>
    if isHigh then .pair seen unit
    else if isLow then .quoted none
    else add unit

def Mode.inQuotes (seen : Option (List Char)) (c : Char) : Option (List Token × Mode) :=
  if c = '"' then some ([.text (seen.map List.reverse)], .between)
  else if c = '\\' then some ([], .escape seen)
  else if c.toNat < 0x20 then none
  else some ([], .quoted (seen.map (c :: ·)))

def Mode.afterBackslash (seen : Option (List Char)) (c : Char) : Option (List Token × Mode) :=
  if c = 'u' then some ([], .hex seen none 0 0)
  else (unescape? c).map fun plain => ([], .quoted (seen.map (plain :: ·)))

/-- Read one character: the tokens that it completes, and the mode after it. -/
def Mode.step : Mode → Char → Option (List Token × Mode)
  | .between, c => some (start c)
  | .word seen, c =>
    if endsWord c then do
      let token ← readWord? seen.reverse
      let (tokens, mode) := start c
      some (token :: tokens, mode)
    else some ([], .word (c :: seen))
  | .quoted seen, c => inQuotes seen c
  | .escape seen, c => afterBackslash seen c
  | .hex seen high value count, c => do
    let digit ← Text.hexValue? c
    if count < 3 then some ([], .hex seen high (value * 16 + digit) (count + 1))
    else some ([], Mode.ofUnit seen high (value * 16 + digit))
  | .pair seen high, c => if c = '\\' then some ([], .pairEscape seen high) else inQuotes none c
  | .pairEscape seen high, c =>
    if c = 'u' then some ([], .hex seen (some high) 0 0) else afterBackslash none c

/-- The tokens that the end of the text completes. Quotes have to be closed. -/
def Mode.finish : Mode → Option (List Token)
  | .between => some []
  | .word seen => (readWord? seen.reverse).map fun token => [token]
  | _ => none

/-- The tokens of the text that is left. -/
def Mode.tokens (mode : Mode) : List Char → Option (List Token)
  | [] => mode.finish
  | c :: cs => do
    let (done, next) ← mode.step c
    let rest ← next.tokens cs
    some (done ++ rest)

end EntityStore.Json
