import ShapeAssert.Tensor.Basic

/-! Reordering the axes of a tensor. The places of the result are visited in row-major order by
counting the last axis up and carrying into the one before it; each takes the element that the
reordered strides lead to. -/

namespace ShapeAssert

namespace Shape

/-- The place after the given one, with whether it wraps around to the first. -/
def advance : Shape → List Nat → List Nat × Bool
  | extent :: shape, i :: index =>
      match advance shape index with
      | (index, false) => (i :: index, false)
      | (index, true) => if i + 1 < extent then ((i + 1) :: index, false) else (0 :: index, true)
  | _, _ => ([], true)

/-- The next place in row-major order. -/
def next (shape : Shape) (index : List Nat) : List Nat :=
  (shape.advance index).1

/-- The first place. -/
def origin (shape : Shape) : List Nat :=
  shape.map fun _ => 0

/-- How far into memory a place lies under given strides. -/
def offset (strides index : List Nat) : Nat :=
  (List.zipWith (· * ·) index strides).foldr (· + ·) 0

end Shape

namespace Tensor

variable {S : Type → Type} [Storage S] {α : Type}

/-- The elements at `count` places from the given one on, read under given strides. -/
def gather (data : Array α) (shape : Shape) (strides : List Nat) :
    (count : Nat) → (index : List Nat) → (gathered : Array α) → Array α
  | 0, _, gathered => gathered
  | count + 1, index, gathered =>
      let gathered := match data[Shape.offset strides index]? with
        | some x => gathered.push x
        | none => gathered
      gather data shape strides count (shape.next index) gathered

/-- The tensor whose axis `i` is the axis `order[i]` of the given one. -/
def permute (tensor : Tensor S α) (order : List Nat) : Except Error (Tensor S α) := do
  let shape ← tensor.shape.permute order
  let strides := order.map fun axis => tensor.strides.getD axis 0
  ofArray (gather tensor.data shape strides shape.size shape.origin #[]) shape

/-- The order of the axes with two of them swapped. -/
def swapOrder (rank a b : Nat) : List Nat :=
  (List.range rank).map fun axis => if axis = a then b else if axis = b then a else axis

/-- Swaps two axes. -/
def transpose (tensor : Tensor S α) (a b : Nat) : Except Error (Tensor S α) :=
  if a < tensor.rank ∧ b < tensor.rank then tensor.permute (swapOrder tensor.rank a b)
  else .error (.invalidAxis (max a b) tensor.rank)

end Tensor

end ShapeAssert
