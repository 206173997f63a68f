/-! Decimal digits, written with the ten ASCII digits only. -/

namespace ShapeAssert.Decimal

/-- The number a run of decimal digits denotes, most significant digit first. -/
def value (digits : List Char) : Nat :=
  digits.foldl (fun total digit => total * 10 + (digit.toNat - '0'.toNat)) 0

/-- The digits of a number without leading zeros. -/
def digits (n : Nat) : List Char :=
  Nat.toDigits 10 n

end ShapeAssert.Decimal
