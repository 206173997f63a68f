import ShapeAssert.Shape.Axis
import ShapeAssert.Storage.Basic

/-! Dense tensors: elements in row-major order together with a shape and its strides. -/

namespace ShapeAssert

structure Tensor (S : Type → Type) (α : Type) where
  storage : S α
  shape : Shape
  strides : List Nat := shape.strides
  strides_eq : strides = shape.strides := by rfl

namespace Tensor

variable {S : Type → Type} {α : Type}

/-- The shape determines the strides. -/
@[ext] theorem ext {tensor other : Tensor S α} (hstorage : tensor.storage = other.storage)
    (hshape : tensor.shape = other.shape) : tensor = other := by
  obtain ⟨storage, shape, _, rfl⟩ := tensor
  obtain ⟨_, _, _, rfl⟩ := other
  obtain rfl : storage = _ := hstorage
  obtain rfl : shape = _ := hshape
  rfl

variable [Storage S]

/-- The elements in row-major order. -/
def data (tensor : Tensor S α) : Array α :=
  Storage.elements tensor.storage

def rank (tensor : Tensor S α) : Nat :=
  tensor.shape.length

def size (tensor : Tensor S α) : Nat :=
  tensor.shape.size

/-- The shape is addressable and has as many elements as the storage holds. -/
def WellFormed (tensor : Tensor S α) : Prop :=
  tensor.shape.checkedSize = some tensor.data.size

instance (tensor : Tensor S α) : Decidable tensor.WellFormed :=
  inferInstanceAs (Decidable (_ = _))

/-- A tensor over a storage that has as many elements as the shape. -/
def ofStorage (storage : S α) (shape : Shape) : Except Error (Tensor S α) := do
  shape.checkHeld (Storage.elements storage).size
  .ok { storage, shape }

/-- A tensor of given elements in a new storage. They are counted before they are stored. -/
def ofArray (data : Array α) (shape : Shape) : Except Error (Tensor S α) := do
  shape.checkHeld data.size
  ofStorage (Storage.ofArray data) shape

/-- The same elements under another shape with as many. -/
def reshape (tensor : Tensor S α) (shape : Shape) : Except Error (Tensor S α) :=
  if shape.size = tensor.size then .ok { storage := tensor.storage, shape }
  else .error (.incompatibleShapes tensor.shape shape)

theorem ofStorage_eq_ok_iff {storage : S α} {shape : Shape} {tensor : Tensor S α} :
    ofStorage storage shape = .ok tensor ↔
      shape.checkedSize = some (Storage.elements storage).size ∧ { storage, shape } = tensor := by
  rw [← Shape.checkHeld_eq_ok, ofStorage]
  cases shape.checkHeld (Storage.elements storage).size with
  | error e => simp [bind, Except.bind]
  | ok _ => simp [bind, Except.bind]

/-- What is stored has as many elements as were counted. -/
theorem ofArray_eq (data : Array α) (shape : Shape) :
    (ofArray data shape : Except Error (Tensor S α)) = ofStorage (Storage.ofArray data) shape := by
  unfold ofArray ofStorage
  rw [Storage.elements_ofArray]
  cases shape.checkHeld data.size <;> rfl

end Tensor

end ShapeAssert
