/-! Double-precision numbers taken apart. A finite number is a mantissa times a power of two; the
mantissa of a normal number has 53 bits and the exponent is never below -1074. -/

namespace ShapeAssert.Decimal

/-- A double-precision number by its parts, the magnitude being `mantissa * 2 ^ exponent`. -/
inductive Binary64 where
  | finite (negative : Bool) (mantissa : Nat) (exponent : Int)
  | infinite (negative : Bool)
  | notANumber
  deriving DecidableEq

namespace Binary64

/-- The least mantissa of a normal number. -/
def hidden : Nat := Nat.pow 2 52

/-- The exponent of the subnormal numbers and of the smallest normal ones. -/
def leastExponent : Int := -1074

/-- Reads the parts from the 64 bits of the interchange format. -/
def ofBits (bits : Nat) : Binary64 :=
  let negative := decide (Nat.pow 2 63 ≤ bits)
  let biased : Nat := bits / hidden % Nat.pow 2 11
  let fraction := bits % hidden
  if biased = 2047 then
    if fraction = 0 then infinite negative else notANumber
  else if biased = 0 then finite negative fraction leastExponent
  else finite negative (hidden + fraction) ((biased : Int) - 1 + leastExponent)

def ofFloat (x : Float) : Binary64 :=
  ofBits x.toBits.toNat

/-- The bits of positive infinity, the first above those of every finite magnitude. -/
def infinityBits : Nat := 2047 * hidden

/-- The largest power of two not above `num / den` is `2 ^ floorLog2 num den`, for positive
arguments. -/
def floorLog2 (num den : Nat) : Int :=
  let guess : Int := num.log2 - den.log2
  if num * Nat.pow 2 (-guess).toNat < den * Nat.pow 2 guess.toNat then guess - 1 else guess

/-- The quotient rounded to the nearest whole number, a half going to the even neighbour. -/
def roundHalfEven (num den : Nat) : Nat :=
  let quotient := num / den
  let twice := 2 * (num % den)
  if twice < den then quotient
  else if den < twice then quotient + 1
  else quotient + quotient % 2

/-- The bits of the double nearest to the positive quotient `num / den`, a half going to the even
mantissa. A mantissa that rounds up to `2 ^ 53` carries into the exponent bits. -/
def nearestBits (num den : Nat) : Nat :=
  let exponent := max (floorLog2 num den - 52) leastExponent
  let mantissa := roundHalfEven (num * Nat.pow 2 (-exponent).toNat) (den * Nat.pow 2 exponent.toNat)
  min ((exponent - leastExponent).toNat * hidden + mantissa) infinityBits

end Binary64

end ShapeAssert.Decimal
