import ShapeAssert.Check.Backend
import ShapeAssert.Tensor.Elementwise
import ShapeAssert.Tensor.Permute
import ShapeAssert.Tensor.Product
import ShapeAssert.Tensor.Reduction
import ShapeAssert.Tensor.Slice

/-! Tensor programs: sequences of steps over named tensors. Step number `i` names its tensor `s`
followed by the number, and a step that fails names none. -/

namespace ShapeAssert

/-- Why a step yields no tensor. -/
inductive StepFailure where
  | noValue (reference : String)
  | stated (message : String)
  | error (cause : Error)

def StepFailure.message : StepFailure → String
  | noValue reference => reference
  | stated message => message
  | error cause => cause.message

inductive Elementwise where
  | add
  | sub
  | mul

inductive Reduction where
  | sum
  | mean

/-- What computes a tensor, with the names of the tensors it works on. -/
inductive Operation (α : Type) where
  | ofArray (data : Array α) (shape : Shape)
  | ofStorage (data : Array α) (shape : Shape)
  | clone (x : String)
  | reshape (x : String) (shape : Shape)
  | elementwise (op : Elementwise) (x y : String)
  | scale (x : String) (factor : α)
  | reduce (op : Reduction) (x : String) (axis : Nat) (keep : Bool)
  | narrow (x : String) (axis start length : Nat)
  | concat (xs : List String) (axis : Nat)
  | permute (x : String) (order : List Nat)
  | transpose (x : String) (a b : Nat)
  | matmul (x y : String)

/-- A step generates a tensor, computes one, or fails. -/
inductive Step (α : Type) where
  | build (shape : Shape) (fill : Fill)
  | compute (operation : Operation α)
  | fail (failure : StepFailure)

/-- The tensors named so far, the latest first. -/
abbrev Names (S : Type → Type) (α : Type) := List (String × Tensor S α)

namespace Names

variable {S : Type → Type} {α : Type}

def get (names : Names S α) (reference : String) : Except StepFailure (Tensor S α) :=
  match names.lookup reference with
  | some tensor => .ok tensor
  | none => .error (.noValue reference)

/-- The name of a step, or of anything else that is numbered. -/
def numbered (letter : String) (number : Nat) : String :=
  letter ++ toString number

end Names

namespace Elementwise

variable {S : Type → Type} [Storage S] {α : Type} [Element α]

def apply : Elementwise → Tensor S α → Tensor S α → Except Error (Tensor S α)
  | add, x, y => x.add y
  | sub, x, y => x.sub y
  | mul, x, y => x.mul y

end Elementwise

namespace Reduction

variable {S : Type → Type} [Storage S] {α : Type} [Element α]

def apply : Reduction → Tensor S α → Nat → Bool → Except Error (Tensor S α)
  | sum, x, axis, keep => x.sumAxis axis keep
  | mean, x, axis, keep => x.meanAxis axis keep

end Reduction

namespace Operation

variable {S : Type → Type} [Storage S] {α : Type} [Element α]

/-- The tensor an operation works on, the first if there are two. -/
def operand? : Operation α → Option String
  | clone x | reshape x _ | elementwise _ x _ | scale x _ | reduce _ x _ _ | narrow x _ _ _
  | permute x _ | transpose x _ _ | matmul x _ => some x
  | ofArray .. | ofStorage .. | concat .. => none

/-- The tensor an operation computes. Names are looked up before anything is computed. -/
def run (names : Names S α) : Operation α → Except StepFailure (Tensor S α)
  | ofArray data shape => (Tensor.ofArray data shape).mapError .error
  | ofStorage data shape => (Tensor.ofStorage (Storage.ofArray data) shape).mapError .error
  | clone x => names.get x
  | reshape x shape => do
      let x ← names.get x
      (x.reshape shape).mapError .error
  | elementwise op x y => do
      let x ← names.get x
      let y ← names.get y
      (op.apply x y).mapError .error
  | scale x factor => do
      let x ← names.get x
      (x.scale factor).mapError .error
  | reduce op x axis keep => do
      let x ← names.get x
      (op.apply x axis keep).mapError .error
  | narrow x axis start length => do
      let x ← names.get x
      (x.narrow axis start length).mapError .error
  | concat xs axis => do
      let xs ← xs.mapM names.get
      (Tensor.concat xs axis).mapError .error
  | permute x order => do
      let x ← names.get x
      (x.permute order).mapError .error
  | transpose x a b => do
      let x ← names.get x
      (x.transpose a b).mapError .error
  | matmul x y => do
      let x ← names.get x
      let y ← names.get y
      (x.matmul y).mapError .error

end Operation

namespace Step

variable {S : Type → Type} [Storage S] {σ α : Type} [Element α]

def operand? : Step α → Option String
  | compute operation => operation.operand?
  | build .. | fail _ => none

/-- The tensor of a step. Only generating a tensor changes the room. -/
def run (backend : Backend S α) (source : RandomSource σ α) (names : Names S α) (room : Room σ) :
    Step α → Except StepFailure (Tensor S α) × Room σ
  | build shape fill =>
      let (result, room) := backend.build source shape fill room
      (result.mapError .error, room)
  | compute operation => (operation.run names, room)
  | fail failure => (.error failure, room)

end Step

/-- Runs all steps, the first having the given number, and returns what each yields. -/
def runSteps {S : Type → Type} [Storage S] {σ α : Type} [Element α] (backend : Backend S α)
    (source : RandomSource σ α) : (number : Nat) → List (Step α) → Names S α → Room σ →
      List (Except StepFailure (Tensor S α)) × Room σ
  | _, [], _, room => ([], room)
  | number, step :: steps, names, room =>
      let (result, room) := step.run backend source names room
      let names := match result with
        | .ok tensor => (Names.numbered "s" number, tensor) :: names
        | .error _ => names
      let (results, room) := runSteps backend source (number + 1) steps names room
      (result :: results, room)

end ShapeAssert
