import ShapeAssert.Proofs.Shape.Size
import ShapeAssert.Tensor.Permute

/-! Strides and offsets. The strides of an addressable shape do not wrap: each is the product of the
extents of all later axes. Under them every place of the shape lies within its elements, and counting
up leads from places to places. -/

namespace ShapeAssert

namespace Shape

/-- The row-major strides in exact arithmetic. -/
def rowMajor : Shape → List Nat
  | [] => []
  | _ :: shape => product shape :: rowMajor shape

theorem length_rowMajor (shape : Shape) : (rowMajor shape).length = shape.length := by
  induction shape with
  | nil => rfl
  | cons extent shape ih => rw [rowMajor, List.length_cons, ih, List.length_cons]

theorem stridesAndSize_snd (shape : Shape) :
    shape.stridesAndSize.2 = shape.product % sizeLimit := by
  induction shape with
  | nil => rfl
  | cons extent shape ih =>
      change (stridesAndSize shape).2 * extent % sizeLimit = _
      rw [ih, product_cons, Nat.mul_comm extent]
      exact Nat.mod_mul_mod ..

theorem strides_cons (extent : Nat) (shape : Shape) :
    strides (extent :: shape) = product shape % sizeLimit :: shape.strides := by
  rw [← stridesAndSize_snd]
  rfl

theorem Addressable.tail {extent : Nat} {shape : Shape} (h : Addressable (extent :: shape)) :
    shape.Addressable :=
  h.drop 1

/-- The strides of an addressable shape do not wrap. -/
theorem Addressable.strides {shape : Shape} (h : shape.Addressable) :
    shape.strides = rowMajor shape := by
  induction shape with
  | nil => rfl
  | cons extent shape ih =>
      rw [strides_cons, ih h.tail, Nat.mod_eq_of_lt h.tail.product_lt, rowMajor]

/-! ### Places -/

/-- The block and the place in it of a place that is `offset` places into block `count`. -/
theorem div_mod_block {count width offset : Nat} (h : offset < width) :
    (count * width + offset) / width = count ∧ (count * width + offset) % width = offset := by
  have hwidth : 0 < width := by omega
  rw [Nat.mul_comm, Nat.mul_add_div hwidth, Nat.mul_add_mod, Nat.div_eq_of_lt h,
    Nat.mod_eq_of_lt h]
  exact ⟨Nat.add_zero count, rfl⟩

/-- A place in one of several blocks lies within all of them. -/
theorem block_lt {count blocks width offset : Nat} (hcount : count < blocks) (h : offset < width) :
    count * width + offset < blocks * width :=
  calc count * width + offset
    _ < count * width + width := Nat.add_lt_add_left h _
    _ = (count + 1) * width := (Nat.succ_mul _ _).symm
    _ ≤ blocks * width := Nat.mul_le_mul_right _ hcount

/-- An index with a position on every axis. -/
def IsPlace (shape : Shape) (index : List Nat) : Prop :=
  List.Forall₂ (· < ·) index shape

theorem offset_cons (stride i : Nat) (strides index : List Nat) :
    offset (stride :: strides) (i :: index) = i * stride + offset strides index := rfl

/-- A place lies among the elements. -/
theorem IsPlace.offset_lt {shape : Shape} {index : List Nat} (h : shape.IsPlace index) :
    offset (rowMajor shape) index < shape.product := by
  induction h with
  | nil => exact Nat.one_pos
  | @cons i extent index shape hi _ ih =>
      rw [rowMajor, offset_cons, product_cons]
      exact block_lt hi ih

theorem IsPlace.advance {shape : Shape} {index : List Nat} (h : shape.IsPlace index) :
    shape.IsPlace (shape.advance index).1 := by
  induction h with
  | nil => exact .nil
  | @cons i extent index shape hi _ ih =>
      rw [Shape.advance]
      cases hrest : Shape.advance shape index with
      | mk rest wrapped =>
          rw [hrest] at ih
          cases wrapped with
          | false => exact .cons hi ih
          | true =>
              dsimp only
              split
              · next hnext => exact .cons hnext ih
              · exact .cons (Nat.zero_lt_of_lt hi) ih

theorem IsPlace.next {shape : Shape} {index : List Nat} (h : shape.IsPlace index) :
    shape.IsPlace (shape.next index) :=
  h.advance

theorem isPlace_origin {shape : Shape} (h : 0 < shape.product) : shape.IsPlace shape.origin := by
  induction shape with
  | nil => exact .nil
  | cons extent shape ih =>
      exact .cons (Nat.pos_of_mul_pos_right h) (ih (Nat.pos_of_mul_pos_left h))

end Shape

end ShapeAssert
