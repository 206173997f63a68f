import ShapeAssert.Decimal.Binary64
import ShapeAssert.Decimal.Digits

/-! Reading a decimal number: an optional sign, then digits with an optional point and an optional
exponent, or one of the words `inf`, `infinity` and `nan` in any case. The result is the double
nearest to the number written. -/

namespace ShapeAssert.Decimal

/-- A number as written, the magnitude being `coefficient * 10 ^ exponent`. -/
inductive Literal where
  | number (negative : Bool) (coefficient : Nat) (exponent : Int)
  | infinity (negative : Bool)
  | notANumber
  deriving DecidableEq

namespace Literal

/-- Splits off a sign, which is `true` for a minus. -/
def takeSign : List Char → Bool × List Char
  | '-' :: rest => (true, rest)
  | '+' :: rest => (false, rest)
  | text => (false, text)

/-- Reads a signed exponent that takes the whole text and has at least one digit. -/
def parseExponent? (text : List Char) : Option Int :=
  let (negative, body) := takeSign text
  if body.isEmpty || !body.all Char.isDigit then none
  else some (if negative then -value body else value body)

/-- Reads digits with an optional point and exponent. A point needs a digit on one side. -/
def parseNumber? (negative : Bool) (text : List Char) : Option Literal :=
  let whole := text.takeWhile Char.isDigit
  let afterWhole := text.dropWhile Char.isDigit
  let tail := match afterWhole with
    | '.' :: rest => rest
    | _ => []
  let part := tail.takeWhile Char.isDigit
  let rest := match afterWhole with
    | '.' :: _ => tail.dropWhile Char.isDigit
    | _ => afterWhole
  if whole.isEmpty && part.isEmpty then none
  else
    let coefficient := value (whole ++ part)
    match rest with
    | [] => some (number negative coefficient (-part.length))
    | mark :: exponent =>
        if mark = 'e' ∨ mark = 'E' then
          (parseExponent? exponent).map fun e => number negative coefficient (e - part.length)
        else none

/-- Reads a whole text as a number. -/
def parse? (text : List Char) : Option Literal :=
  let (negative, body) := takeSign text
  let word := body.map Char.toLower
  if word = "inf".toList ∨ word = "infinity".toList then some (infinity negative)
  else if word = "nan".toList then some notANumber
  else parseNumber? negative body

/-- The bits of the magnitude of `coefficient * 10 ^ exponent`. Far outside the range of doubles
the answer is zero or infinity, whatever the digits are. -/
def magnitudeBits (coefficient : Nat) (exponent : Int) : Nat :=
  let leading : Int := (digits coefficient).length + exponent
  if coefficient = 0 ∨ leading < -330 then 0
  else if 310 < leading then Binary64.infinityBits
  else Binary64.nearestBits (coefficient * Nat.pow 10 exponent.toNat) (Nat.pow 10 (-exponent).toNat)

/-- The bits of the double nearest to a literal. -/
def bits : Literal → Nat
  | number negative coefficient exponent =>
      (if negative then Nat.pow 2 63 else 0) + magnitudeBits coefficient exponent
  | infinity negative => (if negative then Nat.pow 2 63 else 0) + Binary64.infinityBits
  | notANumber => Binary64.infinityBits + Binary64.hidden / 2

def toFloat (literal : Literal) : Float :=
  Float.ofBits (UInt64.ofNat literal.bits)

end Literal

end ShapeAssert.Decimal
