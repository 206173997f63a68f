import ShapeAssert.Tensor.Basic

/-! Arithmetic element by element, on tensors of the same shape. -/

namespace ShapeAssert.Tensor

variable {S : Type → Type} [Storage S] {α : Type}

/-- Combines the elements at the same place of two tensors. -/
def zipWith (f : α → α → α) (left right : Tensor S α) : Except Error (Tensor S α) :=
  if left.shape = right.shape then ofArray (Array.zipWith f left.data right.data) left.shape
  else .error (.incompatibleShapes left.shape right.shape)

def add [Add α] (left right : Tensor S α) : Except Error (Tensor S α) :=
  zipWith (· + ·) left right

def sub [Sub α] (left right : Tensor S α) : Except Error (Tensor S α) :=
  zipWith (· - ·) left right

def mul [Mul α] (left right : Tensor S α) : Except Error (Tensor S α) :=
  zipWith (· * ·) left right

/-- Multiplies every element by the factor on its right. -/
def scale [Mul α] (tensor : Tensor S α) (factor : α) : Except Error (Tensor S α) :=
  ofArray (tensor.data.map (· * factor)) tensor.shape

end ShapeAssert.Tensor
