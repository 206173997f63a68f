import ShapeAssert.Formula.Tensor
import ShapeAssert.Proofs.Sequence

/-! The shape that a formula asks for under a binding: one extent for each dimension, the value of the
dimension, and the whole addressable. -/

namespace ShapeAssert

namespace Shape

theorem elementCount_eq_ok {shape : Shape} {count : Nat} :
    shape.elementCount = .ok count ↔ shape.checkedSize = some count := by
  unfold elementCount
  cases shape.checkedSize <;> simp

theorem elementCount_eq_error {shape : Shape} {e : Error} :
    shape.elementCount = .error e ↔ shape.checkedSize = none ∧ e = .shapeTooLarge shape := by
  unfold elementCount
  cases shape.checkedSize <;> simp [eq_comm]

end Shape

namespace TensorFormula

variable {binding : Binding}

theorem extent_eq_ok {dimension : Dimension} {n : Nat} :
    extent binding dimension = .ok n ↔ dimension.value binding = .ok (n : Int) := by
  rw [extent, bind_eq_ok]
  constructor
  · rintro ⟨value, hvalue, hextent⟩
    split at hextent
    · cases hextent
    · next hnonneg =>
      obtain rfl := Except.ok.inj hextent
      rwa [Int.toNat_of_nonneg (by omega)]
  · intro hvalue
    exact ⟨n, hvalue, by simp⟩

theorem extent_eq_error {dimension : Dimension} {e : Error} :
    extent binding dimension = .error e ↔
      dimension.value binding = .error e ∨
        ∃ value, dimension.value binding = .ok value ∧ value < 0 ∧
          e = .negativeDimension dimension.text value := by
  rw [extent, bind_eq_error]
  refine or_congr_right (exists_congr fun value => and_congr_right fun _ => ?_)
  by_cases hneg : value < 0
  · simp [hneg, eq_comm]
  · simp [hneg]

/-- A formula has the shape whose extents are the values of its dimensions, if that is
addressable. -/
theorem shape_eq_ok {formula : TensorFormula} {shape : Shape} :
    formula.shape binding = .ok shape ↔
      shape.Addressable ∧
        List.Forall₂ (fun dimension (extent : Nat) => dimension.value binding = .ok (extent : Int))
          formula.dimensions shape := by
  simp only [TensorFormula.shape, bind_eq_ok, mapM_eq_ok, extent_eq_ok, Shape.elementCount_eq_ok,
    Shape.Addressable, Option.isSome_iff_exists, Except.ok.injEq]
  constructor
  · rintro ⟨extents, hextents, count, hcount, rfl⟩
    exact ⟨⟨count, hcount⟩, hextents⟩
  · rintro ⟨⟨count, hcount⟩, hextents⟩
    exact ⟨shape, hextents, count, hcount, rfl⟩

end TensorFormula

end ShapeAssert
