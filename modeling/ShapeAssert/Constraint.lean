import ShapeAssert.Error
import ShapeAssert.Letters
import ShapeAssert.Text.Alphabetic
import ShapeAssert.Text.Quoted

/-! Values that the caller fixes for single letters. They come as pairs of a name and a value of any
kind; accepted are single letters with whole numbers from zero to the largest value. -/

namespace ShapeAssert

/-- The value of a constraint as the caller gives it. A whole number is one that an expression may
have as its value. -/
inductive ConstraintValue where
  | int (n : Int) (inRange : InRange n)
  | float (x : Float)
  | text (s : String)

namespace ConstraintValue

/-- A whole number of any size. One out of range is kept as the text of its digits, so that it can
be shown. -/
def ofInt (n : Int) : ConstraintValue :=
  if h : InRange n then int n h else text (toString n)

/-- A single-precision number, widened without change of value. -/
def ofFloat32 (x : Float32) : ConstraintValue :=
  float x.toFloat

/-- Numbers keep a fraction, and have an exponent from `1e16` on and below `1e-4`. -/
def numberStyle : Decimal.Style := ⟨true, some (-4, 15)⟩

def display : ConstraintValue → String
  | int n _ => toString n
  | float x => Decimal.floatText numberStyle x
  | text s => Text.quote s

/-- The number a value stands for if it may be the value of a constraint. -/
def natural? : ConstraintValue → Option Int
  | int n _ => if 0 ≤ n then some n else none
  | _ => none

end ConstraintValue

/-- The fixed values by letter. -/
abbrev Constraints := LetterMap Int

namespace Constraints

/-- The letter a name consists of. -/
def letter? (name : String) : Option Char :=
  match name.toList with
  | [c] => if Text.isLetter c then some c else none
  | _ => none

/-- The letter and number of one pair. The name is judged before the value. -/
def entry (name : String) (value : ConstraintValue) : Except Error (Char × Int) :=
  match letter? name with
  | none => .error (.constraintKey name)
  | some letter =>
      match value.natural? with
      | none => .error (.constraintType name value.display)
      | some n => .ok (letter, n)

/-- Accepts a list of pairs if it accepts each. A later pair for a letter replaces an earlier
one. -/
def validate (raw : List (String × ConstraintValue)) : Except Error Constraints :=
  (raw.mapM fun pair => entry pair.1 pair.2).map LetterMap.ofList

end Constraints

end ShapeAssert
