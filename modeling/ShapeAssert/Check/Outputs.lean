import ShapeAssert.Check.Assignment

/-! What a function under check returns, and whether it has the shapes that the output side of a
pattern asks for. -/

namespace ShapeAssert

/-- The values that a function returned, in order. One value counts as a list of one. -/
structure Outputs (α : Type) where
  values : List α
  deriving DecidableEq

namespace Outputs

variable {α : Type}

def single (a : α) : Outputs α := ⟨[a]⟩

def pair (values : α × α) : Outputs α := ⟨[values.1, values.2]⟩

def triple (values : α × α × α) : Outputs α := ⟨[values.1, values.2.1, values.2.2]⟩

def quadruple (values : α × α × α × α) : Outputs α :=
  ⟨[values.1, values.2.1, values.2.2.1, values.2.2.2]⟩

def ofArray (values : Array α) : Outputs α := ⟨values.toList⟩

def ofList (values : List α) : Outputs α := ⟨values⟩

def size (outputs : Outputs α) : Nat :=
  outputs.values.length

def isEmpty (outputs : Outputs α) : Bool :=
  outputs.values.isEmpty

end Outputs

namespace Formula

/-- Checks the extent of one axis. A bare letter without a value is skipped, or an error in strict
mode. -/
def checkExtent (strict : Bool) (assignment : Assignment) (output axis : Nat)
    (dimension : Dimension) (actual : Nat) : Except Error Unit :=
  match dimension.letter?.filter (!assignment.contains ·) with
  | some letter =>
      if strict then .error (.unboundOutputVariable output axis letter) else .ok ()
  | none => do
      let expected ← dimension.value assignment.lookup
      if expected = actual then .ok ()
      else .error (.shapeMismatch output axis dimension.text expected actual)

/-- Checks the axes from the given one on. -/
def checkAxes (strict : Bool) (assignment : Assignment) (output : Nat) :
    (axis : Nat) → List Dimension → Shape → Except Error Unit
  | axis, dimension :: dimensions, actual :: shape => do
      checkExtent strict assignment output axis dimension actual
      checkAxes strict assignment output (axis + 1) dimensions shape
  | _, _, _ => .ok ()

/-- Checks the shape of one output: first its rank, then its axes. -/
def checkOutput (strict : Bool) (assignment : Assignment) (output : Nat)
    (formula : TensorFormula) (shape : Shape) : Except Error Unit :=
  if shape.length = formula.rank then
    checkAxes strict assignment output 0 formula.dimensions shape
  else .error (.rankMismatch output formula.source formula.rank shape.length)

/-- Checks the outputs from the given one on. -/
def checkEach (strict : Bool) (assignment : Assignment) :
    (output : Nat) → List TensorFormula → List Shape → Except Error Unit
  | output, formula :: formulas, shape :: shapes => do
      checkOutput strict assignment output formula shape
      checkEach strict assignment (output + 1) formulas shapes
  | _, _, _ => .ok ()

/-- Checks the shapes of all outputs: first their number, then each of them. -/
def checkOutputs (strict : Bool) (assignment : Assignment) (formula : Formula)
    (shapes : List Shape) : Except Error Unit :=
  if shapes.length = formula.size then checkEach strict assignment 0 formula.tensors shapes
  else .error (.outputArity formula.size shapes.length)

end Formula

end ShapeAssert
