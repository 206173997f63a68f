import ShapeAssert.Formula.Basic

/-! Patterns: what a function takes and what it returns, with an arrow between the two sides. -/

namespace ShapeAssert

/-- A pattern with the text it was read from, white space removed. -/
structure Pattern where
  source : String
  inputs : Formula
  outputs : Formula
  deriving DecidableEq

namespace Pattern

def arrow : String := "->"

/-- Cuts a text at its arrows, from left to right. -/
def splitArrows : List Char → List (List Char)
  | [] => [[]]
  | '-' :: '>' :: rest => [] :: splitArrows rest
  | c :: rest =>
      match splitArrows rest with
      | [] => [[c]]
      | first :: others => (c :: first) :: others

/-- The two sides of a text without white space, or how many sides there are if not two with
something on them. A single arrow counts only the sides that have something. -/
def sides (text : List Char) : Except Nat (List Char × List Char) :=
  match splitArrows text with
  | [inputs, outputs] =>
      if !inputs.isEmpty && !outputs.isEmpty then .ok (inputs, outputs)
      else .error ((!inputs.isEmpty).toNat + (!outputs.isEmpty).toNat)
  | parts => .error parts.length

/-- Reads a pattern. That there are two sides is settled first, then the inputs, then the
outputs. -/
def parse (text : String) : Except Error Pattern := do
  let compact := Text.compact text.toList
  let (inputs, outputs) ← (sides compact).mapError (.patternArity text)
  let inputs ← Formula.ofCompact inputs
  let outputs ← Formula.ofCompact outputs
  .ok ⟨String.ofList compact, inputs, outputs⟩

/-- The two sides with an arrow between spaces. -/
def text (pattern : Pattern) : String :=
  pattern.inputs.source ++ " " ++ arrow ++ " " ++ pattern.outputs.source

end Pattern

end ShapeAssert
