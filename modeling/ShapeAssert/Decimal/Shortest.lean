import ShapeAssert.Decimal.Binary64

/-! The fewest decimal digits that read back as a given double. The numbers that round to a double
form an interval around it; grids of powers of ten are tried from coarse to fine, and the first
grid with a point in the interval gives the digits. -/

namespace ShapeAssert.Decimal

/-- A positive decimal number `coefficient * 10 ^ exponent`. -/
structure Scientific where
  coefficient : Nat
  exponent : Int
  deriving DecidableEq

/-- Four times a mantissa with the ends of its rounding interval, all over `2 ^ (2 - exponent)`.
The ends belong to the interval when the mantissa is even. -/
structure Interval where
  low : Nat
  centre : Nat
  high : Nat
  closed : Bool
  exponent : Int

/-- The rounding interval of a positive finite double. Below a power of two the gap to the next
double is half as wide, except where the exponent can go no lower. -/
def Interval.around (mantissa : Nat) (exponent : Int) : Interval where
  low := if mantissa = Binary64.hidden ∧ Binary64.leastExponent < exponent
    then 4 * mantissa - 1 else 4 * mantissa - 2
  centre := 4 * mantissa
  high := 4 * mantissa + 2
  closed := mantissa % 2 == 0
  exponent := exponent - 2

namespace Interval

/-- The factor that brings the interval to the common scale with the grid of `10 ^ k`. -/
def scale (range : Interval) (k : Int) : Nat :=
  Nat.pow 2 range.exponent.toNat * Nat.pow 10 (-k).toNat

/-- The distance between grid points on the common scale. -/
def step (range : Interval) (k : Int) : Nat :=
  Nat.pow 2 (-range.exponent).toNat * Nat.pow 10 k.toNat

/-- Whether the grid point `coefficient * 10 ^ k` rounds to the double. -/
def admits (range : Interval) (k : Int) (coefficient : Nat) : Bool :=
  let point := coefficient * range.step k
  let low := range.low * range.scale k
  let high := range.high * range.scale k
  if range.closed then low ≤ point && point ≤ high else low < point && point < high

/-- The one of the centre's two neighbours on the grid that rounds to the double, the nearer if
both do and the upper if they are equally near. -/
def hit? (range : Interval) (k : Int) : Option Nat :=
  let centre := range.centre * range.scale k
  let below := centre / range.step k
  let above := below + 1
  match range.admits k below, range.admits k above with
  | false, false => none
  | true, false => some below
  | false, true => some above
  | true, true =>
      if centre - below * range.step k < above * range.step k - centre then some below
      else some above

/-- Tries the grid of `10 ^ k` and then finer ones. -/
def firstHit (range : Interval) : Nat → Int → Scientific
  | 0, k => ⟨range.centre * range.scale k / range.step k, k⟩
  | tries + 1, k =>
      match range.hit? k with
      | some coefficient => ⟨coefficient, k⟩
      | none => firstHit range tries (k - 1)

/-- A power of ten above the interval: its exponent is at least the binary one times
`log 2 / log 10`. -/
def coarsest (range : Interval) : Int :=
  (range.exponent + range.high.log2 + 1) * 30103 / 100000 + 2

end Interval

/-- The fewest digits that read back as the double `mantissa * 2 ^ exponent`, and of those the
nearest to it. Seventeen digits always suffice, so the grids tried reach far enough. -/
def shortest (mantissa : Nat) (exponent : Int) : Scientific :=
  let range := Interval.around mantissa exponent
  range.firstHit 24 range.coarsest

end ShapeAssert.Decimal
