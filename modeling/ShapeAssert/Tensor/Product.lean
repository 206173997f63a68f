import ShapeAssert.Tensor.Basic

/-! Products of matrices in batches. The last two axes hold the matrices, the axes before them number
the batch. -/

namespace ShapeAssert

/-- The sizes of a batched product: `batch` times an `m` by `k` matrix and a `k` by `n` matrix. -/
structure MatrixSizes where
  batch : Nat
  m : Nat
  k : Nat
  n : Nat
  deriving DecidableEq

namespace MatrixSizes

/-- Where the entry at row `i` and column `p` of a left matrix lies. -/
def leftOffset (sizes : MatrixSizes) (b i p : Nat) : Nat :=
  b * sizes.m * sizes.k + i * sizes.k + p

/-- Where the entry at row `p` and column `j` of a right matrix lies. -/
def rightOffset (sizes : MatrixSizes) (b p j : Nat) : Nat :=
  b * sizes.k * sizes.n + p * sizes.n + j

/-- The entry at row `i` and column `j` of a product: the products of the factors' entries added up
from zero in increasing order. -/
def entry {α : Type} [Zero α] [Add α] [Mul α] (sizes : MatrixSizes) (left right : Array α)
    (b i j : Nat) : α :=
  sizes.k.fold (fun p _ total =>
    total + left.getD (sizes.leftOffset b i p) 0 * right.getD (sizes.rightOffset b p j) 0) 0

end MatrixSizes

namespace Tensor

variable {S : Type → Type} [Storage S] {α : Type}

/-- The sizes of a product of two shapes with the same batch axes and matrices that fit. -/
def matrixSizes? (left right : Shape) : Option MatrixSizes :=
  let rank := left.length
  if 2 ≤ rank ∧ right.length = rank ∧ left.take (rank - 2) = right.take (rank - 2) ∧
      left.getD (rank - 1) 0 = right.getD (rank - 2) 0 then
    some {
      batch := Shape.product (left.take (rank - 2))
      m := left.getD (rank - 2) 0
      k := left.getD (rank - 1) 0
      n := right.getD (rank - 1) 0 }
  else none

/-- The product of the matrices at each place of the batch. -/
def matmul [Zero α] [Add α] [Mul α] (left right : Tensor S α) : Except Error (Tensor S α) :=
  match matrixSizes? left.shape right.shape with
  | none => .error (.incompatibleShapes left.shape right.shape)
  | some sizes => do
      let shape : Shape := left.shape.take (left.rank - 2) ++ [sizes.m, sizes.n]
      let count ← shape.elementCount
      let (a, b) := (left.data, right.data)
      let data := Array.ofFn fun place : Fin count =>
        let row := place / sizes.n
        sizes.entry a b (row / sizes.m) (row % sizes.m) (place % sizes.n)
      ofArray data shape

end Tensor

end ShapeAssert
