import ShapeAssert.Expr.Eval

/-! The dimension of one axis in a formula: a letter, or an expression in parentheses. -/

namespace ShapeAssert

/-- What a formula says of one axis. A group keeps the text it was read from, parentheses
included. -/
inductive Dimension where
  | letter (c : Char)
  | group (source : String) (e : Expr)
  deriving DecidableEq

namespace Dimension

def text : Dimension → String
  | letter c => c.toString
  | group source _ => source

def letter? : Dimension → Option Char
  | letter c => some c
  | group .. => none

/-- The letters a dimension refers to. -/
def nameLetters : Dimension → List Char
  | letter c => [c]
  | group _ e => e.nameLetters

/-- The extent a dimension asks for under a binding, which may be negative. -/
def value (binding : Binding) : Dimension → Except Error Int
  | letter c => (binding c).elim (.error (.undefinedVariable c.toString c.toString)) .ok
  | group source e => e.evalQuoting source binding

end Dimension

end ShapeAssert
