import ShapeAssert.Element
import ShapeAssert.Proofs.Guarded.Permute
import ShapeAssert.Proofs.Guarded.Product
import ShapeAssert.Proofs.Guarded.Reduction
import ShapeAssert.Proofs.Guarded.Slice

/-! No operation on well-formed tensors computes a number that is not a size or reaches for an element
that is not there. Written with steps that would stop it, each operation has its plain result. -/

namespace ShapeAssert

namespace Guarded

variable {S : Type → Type} [Storage S] {α : Type}

/-- Whatever the arguments, every sum and product of the loops is a size, and every place and span lies
within the operands or the result. -/
theorem operations_stay_in_range [Zero α] [Add α] [Mul α] [Div α] [NatCast α]
    {tensor right : Tensor S α} {tensors : List (Tensor S α)} (htensor : tensor.WellFormed)
    (hright : right.WellFormed) (htensors : ∀ other ∈ tensors, other.WellFormed)
    (axis start length a b : Nat) (order : List Nat) (keep : Bool) :
    split tensor.shape axis = Run.safe (tensor.shape.split axis) ∧
      narrow tensor axis start length = Run.safe (tensor.narrow axis start length) ∧
      concat tensors axis = Run.safe (Tensor.concat tensors axis) ∧
      sumAxis tensor axis keep = Run.safe (tensor.sumAxis axis keep) ∧
      meanAxis tensor axis keep = Run.safe (tensor.meanAxis axis keep) ∧
      permute tensor order = Run.safe (tensor.permute order) ∧
      transpose tensor a b = Run.safe (tensor.transpose a b) ∧
      matmul tensor right = Run.safe (tensor.matmul right) :=
  ⟨split_eq htensor.addressable axis, narrow_eq htensor axis start length, concat_eq htensors axis,
    sumAxis_eq htensor axis keep, meanAxis_eq htensor axis keep, permute_eq htensor order,
    transpose_eq htensor a b, matmul_eq htensor hright⟩

/-- Batches of matrices without entries whose other extents multiply to `2 ^ 63`. -/
theorem operations_stay_in_range_beside_empty_axis :
    let tensor : Tensor HeapStorage Float := { storage := ⟨#[]⟩, shape := [4294967296, 0, 2147483648] }
    let right : Tensor HeapStorage Float := { storage := ⟨#[]⟩, shape := [4294967296, 2147483648, 0] }
    let row : Tensor HeapStorage Float := { storage := ⟨#[7, 8]⟩, shape := [1, 2] }
    (tensor.WellFormed ∧ right.WellFormed ∧ ∀ other ∈ [tensor, tensor, row], other.WellFormed) ∧
      split tensor.shape 1 = Run.safe (tensor.shape.split 1) ∧
      narrow tensor 1 18446744073709551615 18446744073709551615 =
        Run.safe (tensor.narrow 1 18446744073709551615 18446744073709551615) ∧
      concat [tensor, tensor, row] 1 = Run.safe (Tensor.concat [tensor, tensor, row] 1) ∧
      sumAxis tensor 1 true = Run.safe (tensor.sumAxis 1 true) ∧
      meanAxis tensor 1 true = Run.safe (tensor.meanAxis 1 true) ∧
      permute tensor [2, 0, 1] = Run.safe (tensor.permute [2, 0, 1]) ∧
      transpose tensor 0 2 = Run.safe (tensor.transpose 0 2) ∧
      matmul tensor right = Run.safe (tensor.matmul right) := by
  intro tensor right row
  have htensor : tensor.WellFormed := by decide
  have hright : right.WellFormed := by decide
  have htensors : ∀ other ∈ [tensor, tensor, row], other.WellFormed := by
    simp only [List.forall_mem_cons, List.not_mem_nil, false_implies, implies_true]
    exact ⟨htensor, htensor, by decide, trivial⟩
  exact ⟨⟨htensor, hright, htensors⟩, operations_stay_in_range htensor hright htensors 1
    18446744073709551615 18446744073709551615 0 2 [2, 0, 1] true⟩

/-- Without the last element of a row the sum stops at it. -/
example :
    let tensor : Tensor HeapStorage Float := { storage := ⟨#[1, 2]⟩, shape := [3] }
    (sumAxis tensor 0 true).run = none := by
  decide

/-- Two axes of `2 ^ 32` before the third are too many, also if that one is empty. -/
example : (split [4294967296, 4294967296, 0] 2).run = none := by
  decide

end Guarded

end ShapeAssert
