/-!
# The shortest decimal of a binary fraction

A finite double is a number `m * 2 ^ q`. Among the reals that round to it, this module finds the
decimal with the fewest digits, and of those the nearest to the double; an exact tie between two
equally near decimals is settled by a rule that the caller states.

All comparisons are made on natural numbers, so the selection is exact.
-/

namespace EntityStore.Decimal

/-- A finite non-negative double, `significand * 2 ^ exponent`. -/
structure Magnitude where
  significand : Nat
  exponent : Int
  /-- Whether `significand` is a power of two, so that the double below is half as far away as the
  double above. -/
  narrowBelow : Bool
  deriving DecidableEq, Repr

/-- The magnitude of a finite double with these `bits`; the sign bit is ignored. -/
def Magnitude.ofBits (bits : UInt64) : Magnitude :=
  let biased := ((bits >>> 52) &&& 0x7FF).toNat
  let fraction := (bits &&& 0xFFFFFFFFFFFFF).toNat
  if biased = 0 then ⟨fraction, -1074, false⟩
  else ⟨Nat.pow 2 52 + fraction, (biased : Int) - 1075, fraction = 0 && biased > 1⟩

/-- The magnitude is `numerator / denominator`. -/
def Magnitude.numerator (x : Magnitude) : Nat := x.significand * Nat.pow 2 x.exponent.toNat

def Magnitude.denominator (x : Magnitude) : Nat := Nat.pow 2 (-x.exponent).toNat

/-- The order of `a * 10 ^ i` and `b * 2 ^ j`. -/
def compareScaled (a : Nat) (i : Int) (b : Nat) (j : Int) : Ordering :=
  compare (a * Nat.pow 10 i.toNat * Nat.pow 2 (-j).toNat)
    (b * Nat.pow 2 j.toNat * Nat.pow 10 (-i).toNat)

/-- Whether `digits * 10 ^ scale` lies among the reals that round to `x`. The interval reaches
halfway to either neighbour; its ends belong to it when the significand is even. -/
def Magnitude.readsBack (x : Magnitude) (digits : Nat) (scale : Int) : Bool :=
  let low := if x.narrowBelow then 4 * x.significand - 1 else 4 * x.significand - 2
  let high := 4 * x.significand + 2
  let closed := x.significand % 2 = 0
  let fromLow := compareScaled digits scale low (x.exponent - 2)
  let fromHigh := compareScaled digits scale high (x.exponent - 2)
  (fromLow = .gt || (closed && fromLow = .eq)) && (fromHigh = .lt || (closed && fromHigh = .eq))

/-- Which of two equally near decimals is taken. -/
inductive Tie where
  | even
  /-- The one further from zero. -/
  | away
  deriving DecidableEq, Repr

/-- The decimal exponent of the leading digit of a positive magnitude: the greatest `e` with
`10 ^ e ≤ x`. -/
def Magnitude.leading (x : Magnitude) : Int :=
  if x.denominator ≤ x.numerator then
    ((Nat.toDigits 10 (x.numerator / x.denominator)).length : Int) - 1
  else
    -((Nat.toDigits 10 ((x.denominator - 1) / x.numerator)).length : Int)

/-- The greatest multiple of `10 ^ scale` not above `x`, counted in units of `10 ^ scale`. -/
def Magnitude.floorAt (x : Magnitude) (scale : Int) : Nat :=
  x.numerator * Nat.pow 10 (-scale).toNat / (x.denominator * Nat.pow 10 scale.toNat)

/-- Of the two neighbours of `x` on the grid of `10 ^ scale`, the one that rounds to `x`; of two
such neighbours the nearer, and at a tie the one that `tie` takes. -/
def Magnitude.onGrid? (x : Magnitude) (tie : Tie) (scale : Int) : Option Nat :=
  let below := x.floorAt scale
  match x.readsBack below scale, x.readsBack (below + 1) scale with
  | false, false => none
  | true, false => some below
  | false, true => some (below + 1)
  | true, true =>
    match compareScaled (2 * below + 1) scale (2 * x.significand) x.exponent, tie with
    | .lt, _ => some (below + 1)
    | .gt, _ => some below
    | .eq, .away => some (below + 1)
    | .eq, .even => some (if below % 2 = 0 then below else below + 1)

/-- A positive decimal: its `digits` without trailing zeros, and the exponent of the first of
them. -/
structure Digits where
  digits : List Char
  leading : Int
  deriving DecidableEq, Repr

/-- The decimal `count * 10 ^ scale` as digits. -/
def Digits.ofScaled (count : Nat) (scale : Int) : Digits :=
  let written := Nat.toDigits 10 count
  ⟨(written.reverse.dropWhile (· == '0')).reverse, scale + written.length - 1⟩

/-- The shortest decimal that rounds to a positive `x`. Seventeen digits always suffice; should none
of the grids hold a decimal, the exact value of `x` is given. -/
def Magnitude.shortest (x : Magnitude) (tie : Tie) : Digits :=
  let found := (List.range 17).findSome? fun (n : Nat) =>
    let scale := x.leading - n
    (x.onGrid? tie scale).map fun count => Digits.ofScaled count scale
  found.getD (Digits.ofScaled (x.numerator * Nat.pow 5 (-x.exponent).toNat) (min x.exponent 0))

end EntityStore.Decimal
