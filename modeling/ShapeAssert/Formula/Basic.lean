import ShapeAssert.Formula.Tensor
import ShapeAssert.Text.WhiteSpace

/-! One side of a pattern: the formulas of several tensors, separated by commas. White space counts
for nothing, empty places are left out, and a comma inside parentheses belongs to an expression. -/

namespace ShapeAssert

/-- The formulas of several tensors with the text they were read from, white space removed. -/
structure Formula where
  source : String
  tensors : List TensorFormula
  deriving DecidableEq

namespace Formula

/-- Cuts a text at the commas that have as many opening as closing parentheses before them. The
count `depth` of those still open is negative where a closing one came first. -/
def splitTopLevel (depth : Int) : List Char → List (List Char)
  | [] => [[]]
  | c :: rest =>
      if c = ',' ∧ depth = 0 then [] :: splitTopLevel depth rest
      else
        let depth := if c = '(' then depth + 1 else if c = ')' then depth - 1 else depth
        match splitTopLevel depth rest with
        | [] => [[c]]
        | first :: others => (c :: first) :: others

/-- Reads the formulas of a text without white space. -/
def ofCompact (text : List Char) : Except Error Formula := do
  let segments := (splitTopLevel 0 text).filter (!·.isEmpty)
  let tensors ← segments.mapM fun segment => TensorFormula.parse (String.ofList segment)
  .ok ⟨String.ofList text, tensors⟩

/-- Reads the formulas of several tensors. -/
def parse (text : String) : Except Error Formula :=
  ofCompact (Text.compact text.toList)

def size (formula : Formula) : Nat :=
  formula.tensors.length

/-- Every letter that a formula of the side refers to. -/
def letters (formula : Formula) : LetterSet :=
  LetterSet.ofList (formula.tensors.flatMap (·.letters.letters))

end Formula

end ShapeAssert
