import ShapeAssert.Tensor.Basic

/-! Sums and means along an axis. The elements along the axis are added in increasing order of their
place on it, starting from zero. -/

namespace ShapeAssert

/-- Where the element with place `k` on the axis lies, in row `row` and `i` steps further in. -/
def Shape.Split.offset (split : Shape.Split) (row k i : Nat) : Nat :=
  (row * split.extent + k) * split.inner + i

namespace Tensor

variable {S : Type → Type} [Storage S] {α : Type}

/-- The sum over the axis for each place on the other axes. -/
def sums [Zero α] [Add α] (data : Array α) (split : Shape.Split) : Array α :=
  Array.ofFn fun place : Fin (split.outer * split.inner) =>
    split.extent.fold
      (fun k _ total =>
        total + data.getD (split.offset (place / split.inner) k (place % split.inner)) 0) 0

/-- The shape of a reduction: the axis is left with extent one or removed. -/
def reducedShape (shape : Shape) (axis : Nat) (keep : Bool) : Except Error Shape :=
  if keep then shape.withExtent axis 1 else shape.removeAxis axis

def sumAxis [Zero α] [Add α] (tensor : Tensor S α) (axis : Nat) (keep : Bool) :
    Except Error (Tensor S α) := do
  let split ← tensor.shape.split axis
  let shape ← reducedShape tensor.shape axis keep
  ofArray (sums tensor.data split) shape

/-- The sum divided by the extent of the axis. -/
def meanAxis [Zero α] [Add α] [Div α] [NatCast α] (tensor : Tensor S α) (axis : Nat)
    (keep : Bool) : Except Error (Tensor S α) := do
  let summed ← tensor.sumAxis axis keep
  let count : α := ((tensor.shape.getD axis 0 : Nat) : α)
  ofArray (summed.data.map (· / count)) summed.shape

end Tensor

end ShapeAssert
