import EntityStore.Decimal.Shortest
import EntityStore.Text.Numeral

/-!
# Reading doubles

A decimal literal is read to the nearest double. Beside the literals, the words `inf`, `infinity`
and `nan` in any case stand for the values that are not numbers.
-/

namespace EntityStore.Decimal

/-- A decimal literal: `count * 10 ^ scale`. -/
structure Literal where
  count : Nat
  scale : Int
  deriving DecidableEq, Repr

/-- The double nearest to a decimal. Far beyond the range of doubles the answer is infinity or zero,
found without building the power of ten: ten lies between `2 ^ 3.321` and `2 ^ 3.322`. -/
def Literal.nearest (l : Literal) : Float :=
  let leading : Int := 1000 * l.count.log2
  let low := leading + min (3321 * l.scale) (3322 * l.scale)
  let high := leading + max (3321 * l.scale) (3322 * l.scale)
  if l.count = 0 || high < -1080000 then 0.0
  else if low > 1030000 then 1.0 / 0.0
  else Float.ofScientific l.count (l.scale < 0) l.scale.natAbs

/-- The exponent part of a literal: nothing, or `e` and a whole number. -/
def readExponent? : List Char → Option Int
  | [] => some 0
  | c :: cs => if c == 'e' || c == 'E' then Text.readInt? cs else none

/-- A literal without sign: digits, perhaps a point and digits, perhaps an exponent. At least one
digit stands before the exponent. -/
def readLiteral? (cs : List Char) : Option Literal :=
  let whole := cs.takeWhile Char.isDigit
  let afterWhole := cs.dropWhile Char.isDigit
  let afterPoint := match afterWhole with
    | '.' :: rest => rest
    | _ => []
  let fraction := afterPoint.takeWhile Char.isDigit
  let rest := match afterWhole with
    | '.' :: rest => rest.dropWhile Char.isDigit
    | rest => rest
  let digits := whole ++ fraction
  if digits.isEmpty then none
  else (readExponent? rest).map fun e => ⟨Text.ofDigits digits, e - fraction.length⟩

def readUnsigned? (cs : List Char) : Option Float :=
  let word := String.ofList (cs.map Char.toLower)
  if word = "inf" || word = "infinity" then some (1.0 / 0.0)
  else if word = "nan" then some (0.0 / 0.0)
  else (readLiteral? cs).map Literal.nearest

/-- The double that a text denotes, which may begin with a sign. -/
def read? : List Char → Option Float
  | '-' :: cs => (readUnsigned? cs).map fun x => -x
  | '+' :: cs => readUnsigned? cs
  | cs => readUnsigned? cs

/-- The whole number that `x` denotes, if `x` is finite and has no fractional part. -/
def toInt? (x : Float) : Option Int :=
  if x.isNaN || x.isInf then none
  else
    let magnitude := Magnitude.ofBits x.toBits
    if magnitude.numerator % magnitude.denominator = 0 then
      let whole : Int := magnitude.numerator / magnitude.denominator
      some (if x.toBits >>> 63 = 1 then -whole else whole)
    else none

/-- Move `i` into the range of signed integers of 64 bits. -/
def clampInt64 (i : Int) : Int := max Text.int64Min (min Text.int64Max i)

end EntityStore.Decimal
