import ShapeAssert.Decimal.Style
import ShapeAssert.Expr.Token
import ShapeAssert.Shape.Basic

/-! Everything that can be wrong with a pattern, a constraint, a fill, a shape or an output, by its
cause. The wording of all of them is one function. -/

namespace ShapeAssert

/-- Numbers in messages have all their digits and no exponent. -/
def plainNumber : Decimal.Style := ⟨false, none⟩

/-- Why a backing file could not be set up. -/
inductive StorageFault where
  | creation
  | mapping
  deriving DecidableEq

def StorageFault.message : StorageFault → String
  | creation => "the file cannot be created"
  | mapping => "the file cannot be mapped"

inductive Error where
  | patternArity (pattern : String) (found : Nat)
  | emptyParenthesis (formula : String)
  | unclosedParenthesis (formula : String)
  | invalidCharacter (formula : String) (character : Char)
  | invalidExpression (expression : String) (fault : SyntaxFault)
  | undefinedVariable (expression name : String)
  | arithmeticOverflow (expression : String)
  | constraintKey (name : String)
  | constraintType (name value : String)
  | insufficientPrimes (needed available bound : Nat)
  | negativeDimension (dimension : String) (value : Int)
  | shapeTooLarge (shape : Shape)
  | outputArity (expected actual : Nat)
  | rankMismatch (output : Nat) (formula : String) (expected actual : Nat)
  | shapeMismatch (output axis : Nat) (dimension : String) (expected : Int) (actual : Nat)
  | unboundOutputVariable (output axis : Nat) (letter : Char)
  | unknownFill (text : String)
  | unrepresentableFill (value : Float)
  | invalidAxis (axis rank : Nat)
  | incompatibleShapes (left right : Shape)
  | invalidSlice (start stop extent : Nat)
  | shapeSize (shape : Shape) (expected actual : Nat)
  | storage (fault : StorageFault)

namespace Error

def message : Error → String
  | patternArity pattern found =>
      s!"Pattern \"{pattern}\" must have exactly two non-empty formulas separated by \"->\", " ++
        s!"found {found}"
  | emptyParenthesis formula => s!"The formula \"{formula}\" has an empty parenthesis"
  | unclosedParenthesis formula =>
      s!"The formula \"{formula}\" has an unclosed or unmatched parenthesis"
  | invalidCharacter formula character =>
      s!"The character '{character}' is not valid in formula \"{formula}\", must be a letter"
  | invalidExpression expression fault =>
      s!"Invalid expression \"{expression}\": {fault.message}"
  | undefinedVariable expression name =>
      s!"Undefined variable '{name}' in expression \"{expression}\""
  | arithmeticOverflow expression =>
      s!"Arithmetic overflow while evaluating \"{expression}\""
  | constraintKey name => s!"The constraint dimension \"{name}\" must be a single letter"
  | constraintType name value =>
      s!"The constraint \"{name}={value}\" must have a non-negative integer value"
  | insufficientPrimes needed available bound =>
      s!"Not enough primes below {bound} to test each dimension: need {needed}, " ++
        s!"have {available}"
  | negativeDimension dimension value =>
      s!"Dimension \"{dimension}\" evaluated to {value}, input dimensions cannot be negative"
  | shapeTooLarge shape =>
      s!"Shape {shape.text} has more elements than can be addressed"
  | outputArity expected actual =>
      s!"Got {actual} output(s), expected {expected} output(s) according to the pattern"
  | rankMismatch output formula expected actual =>
      s!"Output {output} does not have the expected number of dimensions for " ++
        s!"\"{formula}\": expected {expected}, got {actual}"
  | shapeMismatch output axis dimension expected actual =>
      s!"Unexpected shape for output {output} at axis {axis}: dimension \"{dimension}\" " ++
        s!"expects {expected}, got {actual}"
  | unboundOutputVariable output axis letter =>
      s!"Output {output} uses variable '{letter}' at axis {axis}, which is bound neither by " ++
        "the inputs nor by a constraint"
  | unknownFill text =>
      s!"Unknown fill \"{text}\", must be either 'random', 'zeros', 'ones' or a number"
  | unrepresentableFill value =>
      s!"Fill value {Decimal.floatText plainNumber value} cannot be represented by the " ++
        "tensor element type"
  | invalidAxis axis rank => s!"Invalid axis: {axis} for tensor of dimension {rank}"
  | incompatibleShapes left right =>
      s!"Incompatible shapes for operation: {left.text} and {right.text}"
  | invalidSlice start stop extent =>
      s!"Invalid slice: {start}..{stop} for dimension of size {extent}"
  | shapeSize shape expected actual =>
      s!"Shape {shape.text} requires {expected} elements, storage holds {actual}"
  | storage fault => s!"I/O error: {fault.message}"

end Error

end ShapeAssert
