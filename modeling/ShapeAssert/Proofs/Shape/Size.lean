import Mathlib.Algebra.BigOperators.Ring.List
import Mathlib.Algebra.GroupWithZero.Nat
import Mathlib.Algebra.Ring.Nat
import Mathlib.Data.List.GetD
import ShapeAssert.Proofs.Formula.Extents
import ShapeAssert.Shape.Axis

/-! Sizes of shapes. A shape is addressable exactly if the product of its extents, empty axes counted
as one, is a size. That product bounds the product of every part of the shape, so changes of a shape
are judged by what they do to it. -/

namespace ShapeAssert

namespace Shape

theorem product_eq_prod (shape : Shape) : shape.product = shape.prod :=
  List.prod_eq_foldr.symm

@[simp] theorem product_nil : product [] = 1 := rfl

@[simp] theorem product_cons (extent : Nat) (shape : Shape) :
    product (extent :: shape) = extent * product shape := rfl

@[simp] theorem product_append (left right : Shape) :
    product (left ++ right) = product left * product right := by
  simp only [product_eq_prod, List.prod_append]

theorem product_perm {shape other : Shape} (h : other.Perm shape) : other.product = shape.product := by
  rw [product_eq_prod, product_eq_prod, h.prod_eq]

theorem product_eq_zero_iff {shape : Shape} : shape.product = 0 ↔ 0 ∈ shape := by
  rw [product_eq_prod]
  exact @List.prod_eq_zero_iff Nat _ _ _ shape

/-- The product of the extents with empty axes counted as one. -/
def paddedProduct (shape : Shape) : Nat :=
  product (shape.map (max 1))

@[simp] theorem paddedProduct_nil : paddedProduct [] = 1 := rfl

@[simp] theorem paddedProduct_cons (extent : Nat) (shape : Shape) :
    paddedProduct (extent :: shape) = max 1 extent * paddedProduct shape := rfl

@[simp] theorem paddedProduct_append (left right : Shape) :
    paddedProduct (left ++ right) = paddedProduct left * paddedProduct right := by
  simp only [paddedProduct, List.map_append, product_append]

theorem paddedProduct_perm {shape other : Shape} (h : other.Perm shape) :
    other.paddedProduct = shape.paddedProduct :=
  product_perm (h.map (max 1))

theorem paddedProduct_pos (shape : Shape) : 0 < shape.paddedProduct := by
  induction shape with
  | nil => exact Nat.one_pos
  | cons extent shape ih =>
      rw [paddedProduct_cons]
      exact Nat.mul_pos (by omega) ih

theorem product_le_paddedProduct (shape : Shape) : shape.product ≤ shape.paddedProduct := by
  induction shape with
  | nil => exact Nat.le_refl 1
  | cons extent shape ih => exact Nat.mul_le_mul (Nat.le_max_right 1 extent) ih

/-- Counting empty axes as one is leaving them out. -/
theorem product_filter_ne_zero (shape : Shape) :
    product (shape.filter (· ≠ 0)) = shape.paddedProduct := by
  induction shape with
  | nil => rfl
  | cons extent shape ih =>
      rw [paddedProduct_cons, ← ih]
      by_cases hzero : extent = 0
      · rw [List.filter_cons_of_neg (by simpa using hzero), hzero,
          Nat.max_eq_left (Nat.zero_le 1), Nat.one_mul]
      · rw [List.filter_cons_of_pos (by simpa using hzero), product_cons,
          Nat.max_eq_right (Nat.one_le_iff_ne_zero.2 hzero)]

/-! ### Addressable shapes -/

/-- Multiplying step by step succeeds exactly if the whole product is a size, since no factor makes a
product smaller. -/
theorem foldlM_checkedMul {extents : List Nat} (hpos : ∀ extent ∈ extents, extent ≠ 0) (start : Nat)
    (hstart : start < sizeLimit) :
    extents.foldlM checkedMul start =
      if start * product extents < sizeLimit then some (start * product extents) else none := by
  induction extents generalizing start with
  | nil =>
      rw [product_nil, Nat.mul_one, if_pos hstart]
      rfl
  | cons extent extents ih =>
      obtain ⟨hextent, hrest⟩ := List.forall_mem_cons.1 hpos
      rw [List.foldlM_cons, checkedMul, product_cons, ← Nat.mul_assoc]
      by_cases hstep : start * extent < sizeLimit
      · rw [if_pos hstep]
        exact ih hrest _ hstep
      · have hproduct : product extents ≠ 0 := by
          rw [Ne, product_eq_zero_iff]
          exact fun hmem => hrest 0 hmem rfl
        have hle : start * extent ≤ start * extent * product extents :=
          Nat.le_mul_of_pos_right _ (Nat.pos_of_ne_zero hproduct)
        rw [if_neg hstep, if_neg (fun hlt => hstep (Nat.lt_of_le_of_lt hle hlt))]
        rfl

theorem one_lt_sizeLimit : 1 < sizeLimit := by
  decide

theorem checkedSize_eq (shape : Shape) :
    shape.checkedSize = if shape.paddedProduct < sizeLimit then some shape.product else none := by
  have hfilter : ∀ extent ∈ shape.filter (· ≠ 0), extent ≠ 0 := fun extent hmem => by
    simpa using (List.mem_filter.1 hmem).2
  rw [checkedSize, nonzeroProduct, foldlM_checkedMul hfilter 1 one_lt_sizeLimit, Nat.one_mul,
    product_filter_ne_zero]
  by_cases hsize : shape.paddedProduct < sizeLimit
  · rw [if_pos hsize, if_pos hsize, Option.map_some]
    by_cases hzero : 0 ∈ shape
    · rw [if_pos hzero, product_eq_zero_iff.2 hzero]
    · have hall : shape.filter (· ≠ 0) = shape :=
        List.filter_eq_self.2 fun extent hmem => by
          simpa using fun heq : extent = 0 => hzero (heq ▸ hmem)
      rw [if_neg hzero, ← product_filter_ne_zero, hall]
  · rw [if_neg hsize, if_neg hsize, Option.map_none]

theorem checkedSize_eq_some {shape : Shape} {count : Nat} :
    shape.checkedSize = some count ↔ shape.paddedProduct < sizeLimit ∧ shape.product = count := by
  rw [checkedSize_eq]
  by_cases hsize : shape.paddedProduct < sizeLimit
  · simp [hsize]
  · simp [hsize]

theorem addressable_iff {shape : Shape} : shape.Addressable ↔ shape.paddedProduct < sizeLimit := by
  rw [Addressable, checkedSize_eq]
  by_cases hsize : shape.paddedProduct < sizeLimit
  · simp [hsize]
  · simp [hsize]

namespace Addressable

variable {shape : Shape} (h : shape.Addressable)
include h

theorem checkedSize : shape.checkedSize = some shape.product :=
  checkedSize_eq_some.2 ⟨addressable_iff.1 h, rfl⟩

theorem size : shape.size = shape.product := by
  rw [Shape.size, h.checkedSize, Option.getD_some]

theorem elementCount : shape.elementCount = .ok shape.product :=
  elementCount_eq_ok.2 h.checkedSize

theorem product_lt : shape.product < sizeLimit :=
  Nat.lt_of_le_of_lt shape.product_le_paddedProduct (addressable_iff.1 h)

end Addressable

theorem addressable_of_le {shape other : Shape} (h : shape.Addressable)
    (hle : other.paddedProduct ≤ shape.paddedProduct) : other.Addressable :=
  addressable_iff.2 (Nat.lt_of_le_of_lt hle (addressable_iff.1 h))

theorem Addressable.take {shape : Shape} (h : shape.Addressable) (count : Nat) :
    Addressable (shape.take count) := by
  refine addressable_of_le h ?_
  conv_rhs => rw [← List.take_append_drop count shape]
  rw [paddedProduct_append]
  exact Nat.le_mul_of_pos_right _ (paddedProduct_pos _)

theorem Addressable.drop {shape : Shape} (h : shape.Addressable) (count : Nat) :
    Addressable (shape.drop count) := by
  refine addressable_of_le h ?_
  conv_rhs => rw [← List.take_append_drop count shape]
  rw [paddedProduct_append]
  exact Nat.le_mul_of_pos_left _ (paddedProduct_pos _)

theorem Addressable.extent_lt {outer inner : Shape} {extent : Nat}
    (h : Addressable (outer ++ extent :: inner)) : extent < sizeLimit :=
  calc extent
    _ ≤ max 1 extent := Nat.le_max_right 1 extent
    _ ≤ max 1 extent * paddedProduct inner := Nat.le_mul_of_pos_right _ (paddedProduct_pos inner)
    _ ≤ paddedProduct outer * (max 1 extent * paddedProduct inner) :=
        Nat.le_mul_of_pos_left _ (paddedProduct_pos outer)
    _ < sizeLimit := by
        rw [← paddedProduct_cons, ← paddedProduct_append]
        exact addressable_iff.1 h

theorem size_of_not_addressable {shape : Shape} (h : ¬shape.Addressable) : shape.size = maxSize := by
  rw [size, checkedSize_eq, if_neg (fun hlt => h (addressable_iff.2 hlt)), Option.getD_none]

/-! ### One axis -/

theorem eq_append_of_lt {shape : Shape} {axis : Nat} (h : axis < shape.length) :
    shape = shape.take axis ++ shape.getD axis 0 :: shape.drop (axis + 1) := by
  rw [List.getD_eq_getElem _ _ h, ← List.drop_eq_getElem_cons h, List.take_append_drop]

theorem set_eq_append {shape : Shape} {axis : Nat} (h : axis < shape.length) (extent : Nat) :
    shape.set axis extent = shape.take axis ++ extent :: shape.drop (axis + 1) := by
  rw [List.set_eq_take_append_cons_drop, if_pos h]

section Axis

variable {shape : Shape} {axis : Nat} (haxis : axis < shape.length)
include haxis

theorem product_eq_split : shape.product =
    product (shape.take axis) * (shape.getD axis 0 * product (shape.drop (axis + 1))) := by
  conv_lhs => rw [eq_append_of_lt haxis]
  rw [product_append, product_cons]

theorem paddedProduct_eq_split : shape.paddedProduct =
    paddedProduct (shape.take axis) *
      (max 1 (shape.getD axis 0) * paddedProduct (shape.drop (axis + 1))) := by
  conv_lhs => rw [eq_append_of_lt haxis]
  rw [paddedProduct_append, paddedProduct_cons]

theorem product_set (extent : Nat) : product (shape.set axis extent) =
    product (shape.take axis) * (extent * product (shape.drop (axis + 1))) := by
  rw [set_eq_append haxis, product_append, product_cons]

theorem paddedProduct_set (extent : Nat) : paddedProduct (shape.set axis extent) =
    paddedProduct (shape.take axis) *
      (max 1 extent * paddedProduct (shape.drop (axis + 1))) := by
  rw [set_eq_append haxis, paddedProduct_append, paddedProduct_cons]

theorem split_eq_ok : shape.split axis =
    .ok ⟨product (shape.take axis), shape.getD axis 0, product (shape.drop (axis + 1))⟩ := by
  rw [split, checkAxis, if_pos haxis]
  rfl

theorem withExtent_eq_ok (extent : Nat) : shape.withExtent axis extent = .ok (shape.set axis extent) := by
  rw [withExtent, checkAxis, if_pos haxis]
  rfl

theorem removeAxis_eq_ok : shape.removeAxis axis = .ok (shape.eraseIdx axis) := by
  rw [removeAxis, checkAxis, if_pos haxis]
  rfl

theorem checkAxis_eq_ok : shape.checkAxis axis = .ok () := by
  rw [checkAxis, if_pos haxis]

/-- An extent that does not grow, except from zero to one, keeps a shape addressable. -/
theorem Addressable.set (h : shape.Addressable) {extent : Nat}
    (hextent : extent ≤ max 1 (shape.getD axis 0)) : Addressable (shape.set axis extent) := by
  refine addressable_of_le h ?_
  rw [paddedProduct_set haxis, paddedProduct_eq_split haxis]
  exact Nat.mul_le_mul_left _ (Nat.mul_le_mul_right _ (by omega))

omit haxis in
theorem product_eraseIdx : product (shape.eraseIdx axis) =
    product (shape.take axis) * product (shape.drop (axis + 1)) := by
  rw [List.eraseIdx_eq_take_drop_succ, product_append]

theorem Addressable.eraseIdx (h : shape.Addressable) : Addressable (shape.eraseIdx axis) := by
  refine addressable_of_le h ?_
  rw [List.eraseIdx_eq_take_drop_succ, paddedProduct_append, paddedProduct_eq_split haxis]
  exact Nat.mul_le_mul_left _ (Nat.le_mul_of_pos_left _ (by omega))

end Axis

theorem checkAxis_eq_error {shape : Shape} {axis : Nat} (h : ¬axis < shape.length) :
    shape.checkAxis axis = .error (.invalidAxis axis shape.length) := by
  rw [checkAxis, if_neg h]

theorem split_eq_error {shape : Shape} {axis : Nat} (h : ¬axis < shape.length) :
    shape.split axis = .error (.invalidAxis axis shape.length) := by
  rw [split, checkAxis_eq_error h]
  rfl

end Shape

end ShapeAssert
