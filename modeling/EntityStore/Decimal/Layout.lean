import EntityStore.Decimal.Shortest

/-!
# Laying out a decimal

The digits of a decimal are written positionally (`0.00015`, `1500`) or with an exponent (`1.5e-7`).
A `Style` holds the decisions of one output format.
-/

namespace EntityStore.Decimal

/-- The decisions of one way to write doubles. -/
structure Style where
  /-- Whether a number is written with an exponent, by the exponent of its leading digit. -/
  scientific : Int → Bool
  /-- Whether a whole number that is written without an exponent ends in `.0`. -/
  pointZero : Bool
  tie : Tie

/-- Digits without an exponent: the point stands before, inside or after them. -/
def Digits.positional (d : Digits) (pointZero : Bool) : List Char :=
  let whole := d.leading.toNat + 1
  if d.leading < 0 then
    '0' :: '.' :: (List.replicate ((-d.leading).toNat - 1) '0' ++ d.digits)
  else if d.digits.length ≤ whole then
    d.digits ++ List.replicate (whole - d.digits.length) '0' ++
      (if pointZero then ['.', '0'] else [])
  else
    d.digits.take whole ++ '.' :: d.digits.drop whole

def exponentText (e : Int) : List Char :=
  (if e < 0 then '-' else '+') :: Nat.toDigits 10 e.natAbs

/-- Digits written with an exponent: one digit before the point, and no point after a lone digit. -/
def Digits.withExponent (d : Digits) : List Char :=
  let fraction := d.digits.drop 1
  d.digits.take 1 ++ (if fraction.isEmpty then [] else '.' :: fraction) ++
    'e' :: exponentText d.leading

/-- A positive decimal in the given `style`. -/
def Digits.write (d : Digits) (style : Style) : List Char :=
  if style.scientific d.leading then d.withExponent else d.positional style.pointZero

/-- A finite double in the given `style`; a negative zero keeps its sign. -/
def writeFinite (style : Style) (x : Float) : List Char :=
  let magnitude := Magnitude.ofBits x.toBits
  let sign := if x.toBits >>> 63 = 1 then ['-'] else []
  sign ++
    (if magnitude.significand = 0 then Digits.positional ⟨['0'], 0⟩ style.pointZero
      else (magnitude.shortest style.tie).write style)

/-- A double in the given `style`, with words for infinities and `NaN`. -/
def write (style : Style) (x : Float) : List Char :=
  if x.isNaN then ['N', 'a', 'N']
  else if x.isInf then (if x < 0 then ['-', 'i', 'n', 'f'] else ['i', 'n', 'f'])
  else writeFinite style x

end EntityStore.Decimal
