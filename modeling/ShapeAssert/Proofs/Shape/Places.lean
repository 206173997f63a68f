import Mathlib.Data.List.Forall2
import ShapeAssert.Proofs.Shape.Strides
import ShapeAssert.Tensor.Reduction

/-! The places of a shape in row-major order. The number of a place says how many places come before
it. Every number below the number of elements belongs to exactly one place, and counting up leads
from a place to the one with the next number. Around an axis the number of a place is made up of
those of its outer and its inner part. -/

namespace ShapeAssert

namespace Shape

/-- How many places come before a place in row-major order. -/
def position (shape : Shape) (index : List Nat) : Nat :=
  offset (rowMajor shape) index

variable {shape : Shape} {index : List Nat}

theorem position_cons (extent i : Nat) (shape : Shape) (index : List Nat) :
    position (extent :: shape) (i :: index) = i * product shape + position shape index := rfl

theorem IsPlace.length_eq (h : shape.IsPlace index) : index.length = shape.length :=
  List.Forall₂.length_eq h

theorem IsPlace.position_lt (h : shape.IsPlace index) : shape.position index < shape.product :=
  h.offset_lt

theorem position_origin (shape : Shape) : shape.position shape.origin = 0 := by
  induction shape with
  | nil => rfl
  | cons extent shape ih =>
      show 0 * product shape + position shape (origin shape) = 0
      rw [ih, Nat.zero_mul]

/-! ### One number for each place -/

theorem IsPlace.eq_of_position_eq (h : shape.IsPlace index) {other : List Nat}
    (hother : shape.IsPlace other) (heq : shape.position index = shape.position other) :
    index = other := by
  induction h generalizing other with
  | nil => rw [List.length_eq_zero_iff.1 hother.length_eq]
  | @cons i extent index shape hi htail ih =>
      cases hother with
      | @cons j _ other _ hj hrest =>
          rw [position_cons, position_cons] at heq
          -- the first coordinate is the quotient, the number of the rest the remainder
          obtain ⟨hdiv, hmod⟩ := @div_mod_block i _ _ (IsPlace.position_lt htail)
          obtain ⟨hdiv', hmod'⟩ := @div_mod_block j _ _ (IsPlace.position_lt hrest)
          rw [heq] at hdiv hmod
          rw [← hdiv, hdiv', ih hrest (hmod.symm.trans hmod')]

theorem exists_place_of_lt {number : Nat} (h : number < shape.product) :
    ∃ index, shape.IsPlace index ∧ shape.position index = number := by
  induction shape generalizing number with
  | nil => exact ⟨[], .nil, (Nat.lt_one_iff.1 h).symm⟩
  | cons extent shape ih =>
      rw [product_cons] at h
      have hpos : 0 < product shape := Nat.pos_of_mul_pos_left (Nat.zero_lt_of_lt h)
      obtain ⟨index, hindex, hnumber⟩ := ih (Nat.mod_lt number hpos)
      have hfirst : number / product shape < extent := Nat.div_lt_of_lt_mul (by rwa [Nat.mul_comm])
      refine ⟨number / product shape :: index, .cons hfirst hindex, ?_⟩
      rw [position_cons, hnumber, Nat.mul_comm]
      exact Nat.div_add_mod number (product shape)

/-! ### Counting up -/

/-- Counting up wraps around exactly at the last place, to the first one, and leads to the next
number from every other. -/
theorem IsPlace.advance_cases (h : shape.IsPlace index) :
    (shape.advance index).2 = true ∧ shape.position index + 1 = shape.product ∧
        shape.position (shape.advance index).1 = 0 ∨
      (shape.advance index).2 = false ∧
        shape.position (shape.advance index).1 = shape.position index + 1 := by
  induction h with
  | nil => exact .inl ⟨rfl, rfl, rfl⟩
  | @cons i extent index shape hi htail ih =>
      rw [Shape.advance, position_cons, product_cons]
      cases hrest : Shape.advance shape index with
      | mk rest wrapped =>
          rw [hrest] at ih
          cases wrapped with
          | false =>
              obtain ⟨hfalse, -⟩ | ⟨-, hnext⟩ := ih
              · cases hfalse
              · refine .inr ⟨rfl, ?_⟩
                rw [position_cons, hnext, Nat.add_assoc]
          | true =>
              obtain ⟨-, hlast, hzero⟩ | ⟨hfalse, -⟩ := ih
              swap
              · cases hfalse
              have hcarry : i * product shape + position shape index + 1 =
                  (i + 1) * product shape := by
                rw [Nat.add_assoc, hlast, Nat.succ_mul]
              dsimp only at hzero ⊢
              by_cases hnext : i + 1 < extent
              · rw [if_pos hnext]
                refine .inr ⟨rfl, ?_⟩
                rw [position_cons, hzero, hcarry, Nat.add_zero]
              · have hextent : i + 1 = extent := by omega
                rw [if_neg hnext]
                refine .inl ⟨rfl, ?_, ?_⟩
                · rw [hcarry, hextent]
                · rw [position_cons, hzero, Nat.zero_mul]

theorem IsPlace.position_next (h : shape.IsPlace index)
    (hlt : shape.position index + 1 < shape.product) :
    shape.position (shape.next index) = shape.position index + 1 := by
  obtain ⟨-, hlast, -⟩ | ⟨-, hnext⟩ := h.advance_cases
  · omega
  · exact hnext

/-! ### Places around an axis -/

theorem IsPlace.append {left right : Shape} {before after : List Nat} (hleft : left.IsPlace before)
    (hright : right.IsPlace after) : IsPlace (left ++ right) (before ++ after) :=
  List.rel_append hleft hright

theorem isPlace_append_iff {left right : Shape} : IsPlace (left ++ right) index ↔
    ∃ before after, index = before ++ after ∧ left.IsPlace before ∧ right.IsPlace after := by
  constructor
  · intro h
    exact ⟨_, _, (List.take_append_drop left.length index).symm,
      List.forall₂_take_append _ _ _ h, List.forall₂_drop_append _ _ _ h⟩
  · rintro ⟨before, after, rfl, hbefore, hafter⟩
    exact hbefore.append hafter

theorem isPlace_cons_iff {extent : Nat} : IsPlace (extent :: shape) index ↔
    ∃ i rest, index = i :: rest ∧ i < extent ∧ shape.IsPlace rest := by
  constructor
  · rintro (_ | ⟨hi, hrest⟩)
    exact ⟨_, _, rfl, hi, hrest⟩
  · rintro ⟨i, rest, rfl, hi, hrest⟩
    exact .cons hi hrest

/-- A place has a coordinate on the axis between an outer and an inner part. -/
theorem isPlace_axis_iff {outer inner : Shape} {extent : Nat} :
    IsPlace (outer ++ extent :: inner) index ↔
      ∃ before k after, index = before ++ k :: after ∧ outer.IsPlace before ∧ k < extent ∧
        inner.IsPlace after := by
  rw [isPlace_append_iff]
  constructor
  · rintro ⟨before, rest, rfl, hbefore, hrest⟩
    obtain ⟨k, after, rfl, hk, hafter⟩ := isPlace_cons_iff.1 hrest
    exact ⟨before, k, after, rfl, hbefore, hk, hafter⟩
  · rintro ⟨before, k, after, rfl, hbefore, hk, hafter⟩
    exact ⟨before, k :: after, rfl, hbefore, .cons hk hafter⟩

section Coordinate

variable {outer : Shape} {before : List Nat} (h : outer.IsPlace before) (k : Nat) (after : List Nat)
include h

theorem IsPlace.insertIdx_append :
    (before ++ after).insertIdx outer.length k = before ++ k :: after := by
  induction h with
  | nil => rfl
  | cons _ _ ih => exact congrArg (_ :: ·) ih

theorem IsPlace.eraseIdx_append :
    (before ++ k :: after).eraseIdx outer.length = before ++ after := by
  induction h with
  | nil => rfl
  | cons _ _ ih => exact congrArg (_ :: ·) ih

theorem IsPlace.modify_append (f : Nat → Nat) :
    (before ++ k :: after).modify outer.length f = before ++ f k :: after := by
  induction h with
  | nil => rfl
  | cons _ _ ih => exact congrArg (_ :: ·) ih

theorem IsPlace.getD_append : (before ++ k :: after).getD outer.length 0 = k := by
  induction h with
  | nil => rfl
  | cons _ _ ih => exact ih

end Coordinate

theorem position_append {left right : Shape} {before : List Nat} (h : left.IsPlace before)
    (after : List Nat) : position (left ++ right) (before ++ after) =
      position left before * product right + position right after := by
  induction h with
  | nil =>
      rw [List.nil_append, List.nil_append]
      show position right after = 0 * product right + position right after
      rw [Nat.zero_mul, Nat.zero_add]
  | @cons i extent before left hi hbefore ih =>
      rw [List.cons_append, List.cons_append, position_cons, ih, position_cons, product_append,
        Nat.add_mul, Nat.mul_assoc, Nat.add_assoc]

/-- Whole rows come before the place in a row. -/
theorem Split.offset_eq (split : Split) (row k i : Nat) :
    split.offset row k i = row * (split.extent * split.inner) + (k * split.inner + i) := by
  rw [offset, Nat.add_mul, Nat.mul_assoc, Nat.add_assoc]

/-- The split of a shape around the axis after an outer part. -/
abbrev around (outer : Shape) (extent : Nat) (inner : Shape) : Split :=
  ⟨outer.product, extent, inner.product⟩

theorem split_around (outer : Shape) (extent : Nat) (inner : Shape) :
    (⟨product ((outer ++ extent :: inner).take outer.length),
      (outer ++ extent :: inner).getD outer.length 0,
      product ((outer ++ extent :: inner).drop (outer.length + 1))⟩ : Split) =
        around outer extent inner := by
  simp

theorem lt_length_around (outer : Shape) (extent : Nat) (inner : Shape) :
    outer.length < (outer ++ extent :: inner).length := by
  simp

theorem getD_around (outer : Shape) (extent : Nat) (inner : Shape) :
    (outer ++ extent :: inner).getD outer.length 0 = extent := by
  simp

theorem set_around (outer : Shape) (extent : Nat) (inner : Shape) (extent' : Nat) :
    (outer ++ extent :: inner).set outer.length extent' = outer ++ extent' :: inner := by
  simp

theorem eraseIdx_around (outer : Shape) (extent : Nat) (inner : Shape) :
    (outer ++ extent :: inner).eraseIdx outer.length = outer ++ inner := by
  simp [List.eraseIdx_append]

theorem position_axis {outer inner : Shape} {before : List Nat} (h : outer.IsPlace before)
    (extent k : Nat) (after : List Nat) :
    position (outer ++ extent :: inner) (before ++ k :: after) =
      (around outer extent inner).offset (outer.position before) k (inner.position after) := by
  rw [position_append h, product_cons, position_cons, Split.offset_eq]

/-- Every axis of a shape lies between an outer and an inner part. -/
theorem exists_around {axis : Nat} (h : axis < shape.length) :
    ∃ outer extent inner, shape = outer ++ extent :: inner ∧ outer.length = axis :=
  ⟨_, _, _, eq_append_of_lt h, by rw [List.length_take, Nat.min_eq_left h.le]⟩

/-! ### Moving along an axis -/

/-- The coordinate of a place on an axis lies below the extent. -/
theorem IsPlace.getD_lt (h : shape.IsPlace index) {axis : Nat} (haxis : axis < shape.length) :
    index.getD axis 0 < shape.getD axis 0 := by
  induction h generalizing axis with
  | nil => exact absurd haxis (Nat.not_lt_zero axis)
  | cons hi _ ih =>
      cases axis with
      | zero => exact hi
      | succ axis => exact ih (Nat.lt_of_succ_lt_succ haxis)

/-- A place on an axis may be chosen anew together with the extent. -/
theorem IsPlace.set (h : shape.IsPlace index) (axis : Nat) {extent k : Nat} (hk : k < extent) :
    IsPlace (shape.set axis extent) (index.set axis k) := by
  induction h generalizing axis with
  | nil => exact .nil
  | cons hi htail ih =>
      cases axis with
      | zero => exact .cons hk htail
      | succ axis => exact .cons hi (ih axis)

theorem modify_eq_set (index : List Nat) (axis : Nat) (f : Nat → Nat) :
    index.modify axis f = index.set axis (f (index.getD axis 0)) := by
  rw [List.modify_eq_set, List.getD_eq_getElem?_getD]
  rfl

theorem IsPlace.modify (h : shape.IsPlace index) (axis : Nat) {extent : Nat} {f : Nat → Nat}
    (hf : f (index.getD axis 0) < extent) :
    IsPlace (shape.set axis extent) (index.modify axis f) := by
  rw [modify_eq_set]
  exact h.set axis hf

/-- Moving along an axis of the first part of a place. -/
theorem modify_append_left {before : List Nat} {axis : Nat} (haxis : axis < before.length)
    (after : List Nat) (f : Nat → Nat) :
    (before ++ after).modify axis f = before.modify axis f ++ after := by
  rw [modify_eq_set, modify_eq_set, List.getD_append _ _ _ _ haxis, List.set_append_left _ _ haxis]

theorem getD_set {axis : Nat} (haxis : axis < shape.length) (extent : Nat) :
    (shape.set axis extent).getD axis 0 = extent := by
  rw [List.getD_eq_getElem?_getD, List.getElem?_set_self haxis, Option.getD_some]

/-- A place under another extent of an axis is a place again with a coordinate below the extent. -/
theorem IsPlace.of_set {axis extent k : Nat} (h : IsPlace (shape.set axis extent) index)
    (haxis : axis < shape.length) (hk : k < shape.getD axis 0) : shape.IsPlace (index.set axis k) := by
  have hplace := h.set axis hk
  rwa [List.set_set, List.getD_eq_getElem _ _ haxis, List.set_getElem_self] at hplace

theorem getD_set_ne {axis other : Nat} (hother : other ≠ axis) (extent : Nat) :
    (shape.set axis extent).getD other 0 = shape.getD other 0 := by
  rw [List.getD_eq_getElem?_getD, List.getElem?_set_ne hother.symm, ← List.getD_eq_getElem?_getD]

end Shape

end ShapeAssert
