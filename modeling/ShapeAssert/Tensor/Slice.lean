import ShapeAssert.Tensor.Basic

/-! Cutting a range out of an axis and joining tensors along an axis. Both copy, row by row, spans of
elements that lie side by side. -/

namespace ShapeAssert

/-- The elements from `start` up to but not including `stop`. -/
structure Span where
  start : Nat
  stop : Nat
  deriving DecidableEq

/-- The places `start` up to `stop` on the axis, in one row. -/
def Shape.Split.span (split : Shape.Split) (start stop row : Nat) : Span :=
  let base := row * split.extent * split.inner
  ⟨base + start * split.inner, base + stop * split.inner⟩

/-- One whole row of `chunk` elements. -/
def Span.chunk (chunk row : Nat) : Span :=
  ⟨row * chunk, (row + 1) * chunk⟩

namespace Tensor

variable {S : Type → Type} [Storage S] {α : Type}

def copySpan (data : Array α) (span : Span) : Array α :=
  data.extract span.start span.stop

/-- The rows one after the other. -/
def joinRows (count : Nat) (row : Nat → Array α) : Array α :=
  count.fold (fun i _ joined => joined ++ row i) #[]

/-- Keeps `length` places of the axis from `start` on. -/
def narrow (tensor : Tensor S α) (axis start length : Nat) : Except Error (Tensor S α) := do
  let split ← tensor.shape.split axis
  let stop := start + length
  if split.extent < stop then .error (.invalidSlice start (min stop maxSize) split.extent)
  let shape ← tensor.shape.withExtent axis length
  let data :=
    if length * split.inner = 0 then #[]
    else joinRows split.outer fun row => copySpan tensor.data (split.span start stop row)
  ofArray data shape

/-- Whether two shapes agree on every axis but one. -/
def agreeExcept (axis : Nat) (left right : Shape) : Bool :=
  left.set axis 0 == right.set axis 0

/-- The extent of tensors joined along an axis. Each has to agree with the first on the other axes,
and the extents must not add up to more than a size. -/
def joinedExtent (axis : Nat) (first : Shape) (shapes : List Shape) : Except Error Nat :=
  shapes.foldlM (fun total shape =>
    if agreeExcept axis first shape then
      let total := shape.getD axis 0 + total
      if total < sizeLimit then .ok total else .error (.shapeTooLarge first)
    else .error (.incompatibleShapes first shape)) 0

/-- Joins tensors along an axis. -/
def concat (tensors : List (Tensor S α)) (axis : Nat) : Except Error (Tensor S α) :=
  match tensors with
  | [] => .error (.incompatibleShapes [] [])
  | first :: _ => do
      let split ← first.shape.split axis
      let total ← joinedExtent axis first.shape (tensors.map (·.shape))
      let shape ← first.shape.withExtent axis total
      let _ ← shape.elementCount
      let piece (row : Nat) (tensor : Tensor S α) : Array α :=
        copySpan tensor.data (.chunk (tensor.shape.getD axis 0 * split.inner) row)
      let data :=
        if total * split.inner = 0 then #[]
        else joinRows split.outer fun row =>
          tensors.foldl (fun joined tensor => joined ++ piece row tensor) #[]
      ofArray data shape

end Tensor

end ShapeAssert
