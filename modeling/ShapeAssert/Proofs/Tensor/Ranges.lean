import ShapeAssert.Proofs.Guarded.Slice
import ShapeAssert.Proofs.Tensor.Slice

/-! Ranges of an axis. A range is cut out exactly if its axis exists and reaches that far, and why it is
refused depends on the axis alone. What is cut out has the entries of the tensor from the start of the
range on, so cutting twice on one axis is cutting once from the sum of the starts, and cuts on
different axes may change places. -/

namespace ShapeAssert

namespace Shape

/-- The axis exists and reaches as far as the range. -/
def HasRange (shape : Shape) (axis start length : Nat) : Prop :=
  axis < shape.length ∧ start + length ≤ shape.getD axis 0

/-- Why a range that does not exist is refused. -/
def rangeError (shape : Shape) (axis start length : Nat) : Error :=
  if axis < shape.length then
    .invalidSlice start (min (start + length) maxSize) (shape.getD axis 0)
  else .invalidAxis axis shape.length

variable {shape left right : Shape} {axis other : Nat}

/-- Shapes of one rank that reach equally far on an axis have the same ranges there. -/
theorem hasRange_congr (hrank : left.length = right.length)
    (hextent : left.getD axis 0 = right.getD axis 0) (start length : Nat) :
    left.HasRange axis start length ↔ right.HasRange axis start length := by
  rw [HasRange, HasRange, hrank, hextent]

theorem rangeError_congr (hrank : left.length = right.length)
    (hextent : left.getD axis 0 = right.getD axis 0) (start length : Nat) :
    left.rangeError axis start length = right.rangeError axis start length := by
  rw [rangeError, rangeError, hrank, hextent]

/-- The ranges of an axis do not depend on the extent of another one. -/
theorem hasRange_set_iff (hother : other ≠ axis) (shape : Shape) (extent start length : Nat) :
    HasRange (shape.set axis extent) other start length ↔ shape.HasRange other start length :=
  hasRange_congr List.length_set (getD_set_ne hother extent) start length

/-- A range of an addressable shape is addressable. -/
theorem HasRange.addressable_set {start length : Nat} (h : shape.HasRange axis start length)
    (hshape : shape.Addressable) : Addressable (shape.set axis length) := by
  have hstop := h.2
  exact hshape.set h.1 (by omega)

/-- A place of a range, moved by its start, is a place of the whole. -/
theorem HasRange.isPlace_modify {start length : Nat} (h : shape.HasRange axis start length)
    {index : List Nat} (hindex : IsPlace (shape.set axis length) index) :
    shape.IsPlace (index.modify axis (start + ·)) := by
  have hstop := h.2
  have hlt := hindex.getD_lt (by rw [List.length_set]; exact h.1)
  rw [getD_set h.1] at hlt
  rw [modify_eq_set]
  exact hindex.of_set h.1 (by omega)

end Shape

namespace Tensor

variable {S : Type → Type} [Storage S] {α : Type} {tensor part : Tensor S α}
  {axis other start length : Nat}

theorem narrow_eq_error (h : ¬tensor.shape.HasRange axis start length) :
    tensor.narrow axis start length = .error (tensor.shape.rangeError axis start length) := by
  by_cases haxis : axis < tensor.shape.length
  · have hstop : tensor.shape.getD axis 0 < start + length := by
      by_contra hle
      exact h ⟨haxis, Nat.not_lt.1 hle⟩
    rw [narrow_eq tensor haxis, if_pos hstop, Shape.rangeError, if_pos haxis]
  · rw [narrow, Shape.split_eq_error haxis, Shape.rangeError, if_neg haxis]
    rfl

/-- A range that one tensor refuses is refused by every other one that reaches as far on the axis, so
that nothing is done with it. -/
theorem narrow_refused {left right : Tensor S α} (hrank : left.rank = right.rank)
    (hextent : left.shape.getD axis 0 = right.shape.getD axis 0)
    (h : ¬left.shape.HasRange axis start length) (next : Tensor S α → Except Error (Tensor S α)) :
    left.narrow axis start length = (right.narrow axis start length >>= next) := by
  have hright : ¬right.shape.HasRange axis start length := by
    rwa [← Shape.hasRange_congr hrank hextent]
  rw [narrow_eq_error h, narrow_eq_error hright, Shape.rangeError_congr hrank hextent]
  rfl

theorem exists_narrow_iff (h : tensor.WellFormed) :
    (∃ result, tensor.narrow axis start length = .ok result) ↔
      tensor.shape.HasRange axis start length := by
  constructor
  · intro ⟨result, hresult⟩
    by_contra hrange
    rw [narrow_eq_error hrange] at hresult
    cases hresult
  · intro hrange
    obtain ⟨result, hresult, -⟩ := makes_narrow h hrange.1 hrange.2
    exact ⟨result, hresult⟩

/-- The entries of a range of a tensor that is known by its entries. -/
theorem HasEntries.makes_narrow {shape : Shape} {entry : List Nat → Option α}
    (h : part.HasEntries shape entry) (hrange : shape.HasRange axis start length) :
    Makes (part.narrow axis start length) (shape.set axis length) fun index =>
      entry (index.modify axis (start + ·)) := by
  obtain rfl := h.shape_eq
  refine (Tensor.makes_narrow h.wellFormed hrange.1 hrange.2).congr fun index hindex => ?_
  exact h.element?_eq _ (hrange.isPlace_modify hindex)

/-- A range of a tensor is what is made of the same range of another one, if that has the entries of the
range whenever there is one. -/
theorem HasEntries.narrow_eq {shape : Shape} {entry : List Nat → Option α} {other : Tensor S α}
    {next : Tensor S α → Except Error (Tensor S α)} (h : tensor.HasEntries shape entry)
    (hrank : shape.length = other.rank) (hextent : shape.getD axis 0 = other.shape.getD axis 0)
    (hmade : shape.HasRange axis start length →
      Makes (other.narrow axis start length >>= next) (shape.set axis length) fun index =>
        entry (index.modify axis (start + ·))) :
    tensor.narrow axis start length = (other.narrow axis start length >>= next) := by
  by_cases hrange : shape.HasRange axis start length
  · exact (h.makes_narrow hrange).eq (hmade hrange) fun _ _ => rfl
  · obtain rfl := h.shape_eq
    exact narrow_refused hrank hextent hrange next

/-- Within a range, ranges of the same axis start from its start. -/
theorem narrow_narrow (h : tensor.WellFormed) (hrange : tensor.shape.HasRange axis start length)
    {start' length' : Nat} (hstop : start' + length' ≤ length) :
    (tensor.narrow axis start length >>= fun part => part.narrow axis start' length') =
      tensor.narrow axis (start + start') length' := by
  have hinner : Shape.HasRange (tensor.shape.set axis length) axis start' length' := by
    refine ⟨by rw [List.length_set]; exact hrange.1, ?_⟩
    rwa [Shape.getD_set hrange.1]
  have houter : start + start' + length' ≤ tensor.shape.getD axis 0 := by
    have hle := hrange.2
    omega
  have htwice := (makes_narrow h hrange.1 hrange.2).bind fun part hpart =>
    hpart.hasEntries.makes_narrow hinner
  rw [List.set_set] at htwice
  refine htwice.eq (makes_narrow h hrange.1 houter) fun index _ => ?_
  rw [List.modify_modify_eq]
  refine congrArg (fun move => tensor.element? (index.modify axis move)) ?_
  funext k
  show start + (start' + k) = start + start' + k
  rw [Nat.add_assoc]

/-- Ranges of different axes may be cut out in either order. -/
theorem narrow_comm (h : tensor.WellFormed) (hrange : tensor.shape.HasRange axis start length)
    (hother : other ≠ axis) (start' length' : Nat) :
    (tensor.narrow axis start length >>= fun part => part.narrow other start' length') =
      (tensor.narrow other start' length' >>= fun part => part.narrow axis start length) := by
  obtain ⟨part, hpart, hmade⟩ := makes_narrow h hrange.1 hrange.2
  rw [hpart]
  refine hmade.hasEntries.narrow_eq List.length_set (Shape.getD_set_ne hother length) fun hset => ?_
  have hnext := (Shape.hasRange_set_iff hother _ length start' length').1 hset
  have hback := (makes_narrow h hnext.1 hnext.2).bind fun part hpart =>
    hpart.hasEntries.makes_narrow ((Shape.hasRange_set_iff hother.symm _ length' start length).2 hrange)
  rw [List.set_comm _ _ hother] at hback
  refine hback.congr fun index _ => ?_
  rw [List.modify_modify_ne _ _ _ hother]

/-- A range is cut out exactly if its axis exists and reaches as far as it, in exact arithmetic; the
end of a range that is refused is given as the largest size if it is none. What is cut out differs
from the tensor on that axis alone, has the length of the range there, and at every place the entry of
the tensor with the coordinate moved by the start. So a range of it on the same axis is the range of the
tensor from the sum of the starts, and one on another axis may as well be cut out before. The copy of
flat rows, with every bound computed in sizes, does the same. -/
theorem narrow_selects_range (h : tensor.WellFormed) (axis start length : Nat) :
    Guarded.narrow tensor axis start length = Guarded.Run.safe (tensor.narrow axis start length) ∧
    ((∃ result, tensor.narrow axis start length = .ok result) ↔
      axis < tensor.rank ∧ start + length ≤ tensor.shape.getD axis 0) ∧
    (¬axis < tensor.rank →
      tensor.narrow axis start length = .error (.invalidAxis axis tensor.rank)) ∧
    (axis < tensor.rank → tensor.shape.getD axis 0 < start + length →
      tensor.narrow axis start length =
        .error (.invalidSlice start (min (start + length) maxSize) (tensor.shape.getD axis 0))) ∧
    ∀ result : Tensor S α, tensor.narrow axis start length = .ok result →
      result.WellFormed ∧ result.rank = tensor.rank ∧ result.shape[axis]? = some length ∧
      (∀ other, other ≠ axis → result.shape[other]? = tensor.shape[other]?) ∧
      (∀ index, result.shape.IsPlace index →
        tensor.shape.IsPlace (index.modify axis (start + ·)) ∧
        ∃ x, tensor.element? (index.modify axis (start + ·)) = some x ∧
          result.element? index = some x) ∧
      (∀ start' length', start' + length' ≤ length →
        result.narrow axis start' length' = tensor.narrow axis (start + start') length') ∧
      ∀ other, other ≠ axis → ∀ start' length',
        result.narrow other start' length' =
          (tensor.narrow other start' length' >>= fun part => part.narrow axis start length) := by
  refine ⟨Guarded.narrow_eq h axis start length, exists_narrow_iff h, fun haxis => ?_,
    fun haxis hstop => ?_, fun result hresult => ?_⟩
  · rw [narrow_eq_error fun hrange => haxis hrange.1]
    exact congrArg Except.error (if_neg haxis)
  · rw [narrow_eq_error fun hrange => absurd hrange.2 (Nat.not_le.2 hstop)]
    exact congrArg Except.error (if_pos haxis)
  · have hrange : tensor.shape.HasRange axis start length := (exists_narrow_iff h).1 ⟨result, hresult⟩
    have hmade := (makes_narrow h hrange.1 hrange.2).tabulates hresult
    have hshape := hmade.shape_eq
    refine ⟨hmade.wellFormed, ?_, ?_, fun other hother => ?_, fun index hindex => ?_,
      fun start' length' hstop => ?_, fun other hother start' length' => ?_⟩
    · rw [rank, hshape, List.length_set, rank]
    · rw [hshape, List.getElem?_set_self hrange.1]
    · rw [hshape, List.getElem?_set_ne hother.symm]
    · rw [hshape] at hindex
      exact ⟨hrange.isPlace_modify hindex, hmade.exists_entry hindex⟩
    · have htwice := narrow_narrow h hrange hstop
      rw [hresult] at htwice
      exact htwice
    · have hswap := narrow_comm h hrange hother start' length'
      rw [hresult] at hswap
      exact hswap

/-- Ranges that end beyond every size, that are empty at the end of the axis, and one within another. -/
theorem narrow_selects_range_at_both_ends :
    let tensor : Tensor HeapStorage Nat := { storage := ⟨#[0, 1, 2, 3, 4, 5]⟩, shape := [2, 3] }
    let part : Tensor HeapStorage Nat := { storage := ⟨#[1, 2, 4, 5]⟩, shape := [2, 2] }
    tensor.WellFormed ∧
      tensor.narrow 1 18446744073709551615 2 =
        .error (.invalidSlice 18446744073709551615 18446744073709551615 3) ∧
      (∃ result, tensor.narrow 1 3 0 = .ok result) ∧
      tensor.narrow 1 1 2 = .ok part ∧
      (∃ x, tensor.element? [1, 2] = some x ∧ part.element? [1, 1] = some x) ∧
      part.narrow 1 1 1 = tensor.narrow 1 2 1 ∧
      part.narrow 0 1 1 = (tensor.narrow 0 1 1 >>= fun row => row.narrow 1 1 2) := by
  intro tensor part
  have hwell : tensor.WellFormed := by decide
  have hpart : tensor.narrow 1 1 2 = .ok part := by cbv
  obtain ⟨-, -, -, hbeyond, -⟩ := narrow_selects_range hwell 1 18446744073709551615 2
  obtain ⟨-, hempty, -⟩ := narrow_selects_range hwell 1 3 0
  obtain ⟨-, -, -, -, hall⟩ := narrow_selects_range hwell 1 1 2
  obtain ⟨-, -, -, -, hentries, hsame, hothers⟩ := hall part hpart
  exact ⟨hwell, hbeyond (by decide) (by decide), hempty.2 (by decide), hpart,
    (hentries [1, 1] (by decide)).2, hsame 1 1 (by decide), hothers 0 (by decide) 1 1⟩

end Tensor

end ShapeAssert
