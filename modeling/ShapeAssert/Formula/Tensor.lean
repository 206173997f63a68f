import ShapeAssert.Formula.Dimension
import ShapeAssert.Shape.Axis

/-! The formula of one tensor: one dimension per axis, written one after the other. Outside
parentheses every character is a letter; a group runs from an opening parenthesis to the closing
one that matches it. -/

namespace ShapeAssert

/-- What is wrong with the text of a formula, apart from the text itself. -/
inductive FormulaFault where
  | emptyParenthesis
  | unclosedParenthesis
  | invalidCharacter (character : Char)
  | group (error : Error)

def FormulaFault.toError (formula : String) : FormulaFault → Error
  | emptyParenthesis => .emptyParenthesis formula
  | unclosedParenthesis => .unclosedParenthesis formula
  | invalidCharacter character => .invalidCharacter formula character
  | group error => error

/-- The dimensions of the axes of a tensor, with every letter that they refer to, inside groups too. -/
structure Axes where
  dimensions : List Dimension
  letters : LetterSet
  letters_eq : letters = LetterSet.ofList (dimensions.flatMap Dimension.nameLetters)
  deriving DecidableEq

namespace Axes

instance : EmptyCollection Axes := ⟨⟨[], ∅, rfl⟩⟩

/-- The axes with one more, whose letters are put with the others. -/
def push (axes : Axes) (dimension : Dimension) : Axes where
  dimensions := axes.dimensions ++ [dimension]
  letters := dimension.nameLetters.foldl .insert axes.letters
  letters_eq := by
    rw [axes.letters_eq, List.flatMap_append, List.flatMap_singleton]
    exact List.foldl_append.symm

/-- The axes with given dimensions. -/
def ofList (dimensions : List Dimension) : Axes :=
  ⟨dimensions, _, rfl⟩

@[simp] theorem dimensions_ofList (dimensions : List Dimension) :
    (ofList dimensions).dimensions = dimensions := rfl

theorem letters_ofList (dimensions : List Dimension) :
    (ofList dimensions).letters = LetterSet.ofList (dimensions.flatMap Dimension.nameLetters) := rfl

theorem mem_letters {axes : Axes} {c : Char} :
    c ∈ axes.letters ↔ ∃ dimension ∈ axes.dimensions, c ∈ dimension.nameLetters := by
  rw [axes.letters_eq, LetterSet.mem_ofList, List.mem_flatMap]

/-- The dimensions determine the letters. -/
@[ext] theorem ext {axes other : Axes} (h : axes.dimensions = other.dimensions) : axes = other := by
  obtain ⟨dimensions, _, rfl⟩ := axes
  obtain ⟨_, _, rfl⟩ := other
  obtain rfl : dimensions = _ := h
  rfl

theorem dimensions_foldl_push (axes : Axes) (dimensions : List Dimension) :
    (dimensions.foldl push axes).dimensions = axes.dimensions ++ dimensions := by
  induction dimensions generalizing axes with
  | nil => exact (List.append_nil _).symm
  | cons dimension dimensions ih =>
      rw [List.foldl_cons, ih, push, List.append_assoc]
      rfl

theorem foldl_push_empty (axes : Axes) : axes.dimensions.foldl push ∅ = axes :=
  ext (dimensions_foldl_push ∅ axes.dimensions)

end Axes

/-- The formula of one tensor with the text it was read from. -/
structure TensorFormula extends Axes where
  source : String
  deriving DecidableEq

namespace TensorFormula

/-- The dimension written as a group. -/
def readGroup (source : List Char) : Except FormulaFault Dimension :=
  ((Expr.parse (String.ofList source)).map (.group (String.ofList source))).mapError .group

/-- Reads the remaining characters behind some axes. Inside parentheses `depth` counts the open ones
and `group` holds the characters since the outermost of them, the last one first. -/
def scan (axes : Axes) (depth : Nat) (group : List Char) : List Char → Except FormulaFault Axes
  | [] => if depth = 0 then .ok axes else .error .unclosedParenthesis
  | '(' :: rest => scan axes (depth + 1) ('(' :: group) rest
  | ')' :: rest =>
      if depth = 0 then .error .unclosedParenthesis
      else if group.head? = some '(' then .error .emptyParenthesis
      else if depth = 1 then
        match readGroup (')' :: group).reverse with
        | .error fault => .error fault
        | .ok dimension => scan (axes.push dimension) 0 [] rest
      else scan axes (depth - 1) (')' :: group) rest
  | c :: rest =>
      if 0 < depth then scan axes depth (c :: group) rest
      else if Text.isLetter c then scan (axes.push (.letter c)) 0 [] rest
      else .error (.invalidCharacter c)

/-- Reads the formula of one tensor. White space is not allowed outside groups. -/
def parse (source : String) : Except Error TensorFormula :=
  match scan ∅ 0 [] source.toList with
  | .ok axes => .ok ⟨axes, source⟩
  | .error fault => .error (fault.toError source)

def rank (formula : TensorFormula) : Nat :=
  formula.dimensions.length

/-- The extent of a dimension, which cannot be negative. -/
def extent (binding : Binding) (dimension : Dimension) : Except Error Nat := do
  let value ← dimension.value binding
  if value < 0 then .error (.negativeDimension dimension.text value) else .ok value.toNat

/-- The shape the formula asks for under a binding, which has to be addressable. -/
def shape (formula : TensorFormula) (binding : Binding) : Except Error Shape := do
  let extents : Shape ← formula.dimensions.mapM (extent binding)
  let _ ← extents.elementCount
  .ok extents

end TensorFormula

end ShapeAssert
