import ShapeAssert.Decimal.Digits
import ShapeAssert.Decimal.Shortest

/-! The text of a double: its shortest digits laid out either with a decimal point in place or with
an exponent, as a style decides. -/

namespace ShapeAssert.Decimal

/-- The decisions a number's text leaves open. -/
structure Style where
  /-- Whether a whole number without exponent ends in `.0`. -/
  fraction : Bool
  /-- The exponents of the first digit that are written with the point in place, if not all. -/
  inPlace : Option (Int × Int)

namespace Scientific

/-- How many digits stand before the decimal point when it is in place. -/
def point (number : Scientific) : Int :=
  (digits number.coefficient).length + number.exponent

/-- The digits with the decimal point in place, padded with zeros on the side that needs them. -/
def inPlace (number : Scientific) (fraction : Bool) : List Char :=
  let body := digits number.coefficient
  let point := number.point
  if point ≤ 0 then ['0', '.'] ++ List.replicate (-point).toNat '0' ++ body
  else if body.length ≤ point then
    body ++ List.replicate (point.toNat - body.length) '0' ++ if fraction then ['.', '0'] else []
  else body.take point.toNat ++ '.' :: body.drop point.toNat

/-- One digit before the point, the rest after it, and the exponent. -/
def withExponent (number : Scientific) : List Char :=
  let body := digits number.coefficient
  let rest := body.drop 1
  body.take 1 ++ (if rest.isEmpty then [] else '.' :: rest) ++
    'e' :: (toString (number.point - 1)).toList

/-- Lays the digits out as the style decides. -/
def text (number : Scientific) (style : Style) : List Char :=
  match style.inPlace with
  | none => number.inPlace style.fraction
  | some (first, last) =>
      if first ≤ number.point - 1 ∧ number.point - 1 ≤ last then number.inPlace style.fraction
      else number.withExponent

end Scientific

/-- The text of a double. Zero keeps its sign. -/
def Binary64.text (style : Style) : Binary64 → List Char
  | .notANumber => ['N', 'a', 'N']
  | .infinite negative => (if negative then ['-'] else []) ++ ['i', 'n', 'f']
  | .finite negative mantissa exponent =>
      (if negative then ['-'] else []) ++
        if mantissa = 0 then '0' :: if style.fraction then ['.', '0'] else []
        else (shortest mantissa exponent).text style

/-- The text of a floating-point number in a style. -/
def floatText (style : Style) (x : Float) : String :=
  String.ofList ((Binary64.ofFloat x).text style)

end ShapeAssert.Decimal
