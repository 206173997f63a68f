/-! The two kinds of number. Values of expressions are signed and fit in 64 bits; sizes, extents and
offsets are unsigned and lie below `2 ^ 64`. Arithmetic is exact and then compared with these
bounds, so nothing wraps unnoticed. -/

namespace ShapeAssert

/-- This is `-2 ^ 63`. -/
def minValue : Int := -9223372036854775808

/-- This is `2 ^ 63 - 1`. -/
def maxValue : Int := 9223372036854775807

/-- A whole number that an expression may have as its value. -/
def InRange (n : Int) : Prop :=
  minValue ≤ n ∧ n ≤ maxValue

instance (n : Int) : Decidable (InRange n) :=
  inferInstanceAs (Decidable (_ ∧ _))

/-- Sizes lie strictly below this bound, which is `2 ^ 64`. -/
def sizeLimit : Nat := 18446744073709551616

/-- The largest size, which also stands for every size that is too large. -/
def maxSize : Nat := sizeLimit - 1

end ShapeAssert
