import ShapeAssert.Proofs.Guarded.Reduction
import ShapeAssert.Proofs.Tensor.Entries

/-! Sums and means along an axis by place. Each entry of the result comes from one line of the tensor, the
entries along the axis at the same place on the other axes, added up from zero in increasing order.
Whether the axis stays, with extent one, makes no difference to the data. -/

namespace ShapeAssert

namespace Tensor

variable {S : Type → Type} [Storage S] {α : Type}

/-- A tensor that holds, for each place on the other axes, the value of the line along an axis. -/
structure Reduces (result tensor : Tensor S α) (axis : Nat) (keep : Bool) (value : List α → α) :
    Prop where
  wellFormed : result.WellFormed
  shape_eq : result.shape = if keep then tensor.shape.set axis 1 else tensor.shape.eraseIdx axis
  element?_eq : ∀ index, Shape.IsPlace (tensor.shape.eraseIdx axis) index →
    ∃ terms, tensor.line? axis index = some terms ∧
      result.element? (if keep then index.insertIdx axis 0 else index) = some (value terms)

/-- The place on the other axes of a place of a reduction. -/
def otherAxes (axis : Nat) (keep : Bool) (index : List Nat) : List Nat :=
  if keep then index.eraseIdx axis else index

variable {tensor : Tensor S α} {axis : Nat}

section Sums

variable [Zero α] [Add α]

/-- Rows and places in them are told apart by division. -/
theorem getElem?_sums (data : Array α) (split : Shape.Split) {row i : Nat} (hrow : row < split.outer)
    (hi : i < split.inner) : (sums data split)[row * split.inner + i]? =
      some (total ((List.range split.extent).map fun k => data.getD (split.offset row k i) 0)) := by
  have hplace : row * split.inner + i < split.outer * split.inner :=
    Shape.block_lt hrow hi
  obtain ⟨hdiv, hmod⟩ := @Shape.div_mod_block row _ _ hi
  rw [sums, Array.getElem?_ofFn, dif_pos hplace]
  dsimp only
  rw [hdiv, hmod]
  exact congrArg some (fold_eq_total split.extent _)

/-- Places of a reduction, with the axis kept or not. -/
theorem exists_parts_of_isPlace {outer inner : Shape} {keep : Bool} {index : List Nat}
    (h : Shape.IsPlace (if keep then outer ++ 1 :: inner else outer ++ inner) index) :
    ∃ before after, Shape.IsPlace outer before ∧ Shape.IsPlace inner after ∧
      otherAxes outer.length keep index = before ++ after ∧
      Shape.position (if keep then outer ++ 1 :: inner else outer ++ inner) index =
        outer.position before * inner.product + inner.position after := by
  cases keep with
  | true =>
      obtain ⟨before, k, after, rfl, hbefore, hk, hafter⟩ := Shape.isPlace_axis_iff.1 h
      obtain rfl := Nat.lt_one_iff.1 hk
      refine ⟨before, after, hbefore, hafter, hbefore.eraseIdx_append 0 after, ?_⟩
      show Shape.position (outer ++ 1 :: inner) (before ++ 0 :: after) = _
      rw [Shape.position_axis hbefore, Shape.Split.offset, Nat.mul_one, Nat.add_zero]
  | false =>
      obtain ⟨before, after, rfl, hbefore, hafter⟩ := Shape.isPlace_append_iff.1 h
      exact ⟨before, after, hbefore, hafter, rfl, Shape.position_append hbefore after⟩

theorem makes_sumAxis (h : tensor.WellFormed) (haxis : axis < tensor.rank) (keep : Bool) :
    Makes (tensor.sumAxis axis keep)
      (if keep then tensor.shape.set axis 1 else tensor.shape.eraseIdx axis) fun index =>
        (tensor.line? axis (otherAxes axis keep index)).map total := by
  rw [sumAxis_eq tensor haxis]
  have hreduced : Shape.Addressable
      (if keep then tensor.shape.set axis 1 else tensor.shape.eraseIdx axis) := by
    cases keep with
    | true => exact h.addressable.set haxis (Nat.le_max_left 1 _)
    | false => exact h.addressable.eraseIdx haxis
  refine makes_ofArray hreduced ?_ fun index hindex => ?_
  · rw [size_sums, product_reducedShape haxis]
  · obtain ⟨outer, extent, inner, hshape, rfl⟩ := Shape.exists_around haxis
    rw [hshape, Shape.set_around, Shape.eraseIdx_around] at hindex ⊢
    obtain ⟨before, after, hbefore, hafter, hothers, hposition⟩ := exists_parts_of_isPlace hindex
    rw [hothers, h.line?_eq hshape hbefore hafter 0, hposition, Shape.split_around, Option.map_some]
    exact getElem?_sums _ (Shape.around outer extent inner) hbefore.position_lt hafter.position_lt

/-- Keeping the axis only adds it to the shape. -/
theorem data_sumAxis (haxis : axis < tensor.rank) {keep : Bool} {sum : Tensor S α}
    (h : tensor.sumAxis axis keep = .ok sum) : sum.data = sums tensor.data
      ⟨Shape.product (tensor.shape.take axis), tensor.shape.getD axis 0,
        Shape.product (tensor.shape.drop (axis + 1))⟩ := by
  rw [sumAxis_eq tensor haxis] at h
  exact data_of_ofArray h

variable [Div α] [NatCast α]

theorem makes_meanAxis (h : tensor.WellFormed) (haxis : axis < tensor.rank) (keep : Bool) :
    Makes (tensor.meanAxis axis keep)
      (if keep then tensor.shape.set axis 1 else tensor.shape.eraseIdx axis) fun index =>
        (tensor.line? axis (otherAxes axis keep index)).map fun terms =>
          total terms / ((tensor.shape.getD axis 0 : Nat) : α) := by
  rw [meanAxis]
  refine (makes_sumAxis h haxis keep).bind fun summed hsummed => ?_
  refine (makes_map hsummed _).congr fun index _ => ?_
  rw [Option.map_map]
  rfl

theorem data_meanAxis (haxis : axis < tensor.rank) {keep : Bool} {mean : Tensor S α}
    (h : tensor.meanAxis axis keep = .ok mean) : mean.data = (sums tensor.data
      ⟨Shape.product (tensor.shape.take axis), tensor.shape.getD axis 0,
        Shape.product (tensor.shape.drop (axis + 1))⟩).map
          (· / ((tensor.shape.getD axis 0 : Nat) : α)) := by
  rw [meanAxis] at h
  obtain ⟨sum, hsum, hmean⟩ := bind_eq_ok.1 h
  rw [data_of_ofArray hmean, data_sumAxis haxis hsum]

theorem meanAxis_eq_error (haxis : ¬axis < tensor.rank) (keep : Bool) :
    tensor.meanAxis axis keep = .error (.invalidAxis axis tensor.rank) := by
  rw [meanAxis, sumAxis_eq_error tensor haxis]
  rfl

end Sums

/-- The value at each place of a reduction, seen from the places on the other axes. -/
theorem Tabulates.reduces {result : Tensor S α} {keep : Bool} {value : List α → α}
    (hresult : result.Tabulates
      (if keep then tensor.shape.set axis 1 else tensor.shape.eraseIdx axis) fun index =>
        (tensor.line? axis (otherAxes axis keep index)).map value)
    (haxis : axis < tensor.rank) : result.Reduces tensor axis keep value := by
  refine ⟨hresult.wellFormed, hresult.shape_eq, fun index hindex => ?_⟩
  obtain ⟨outer, extent, inner, hshape, rfl⟩ := Shape.exists_around haxis
  rw [hshape, Shape.eraseIdx_around] at hindex
  obtain ⟨before, after, rfl, hbefore, hafter⟩ := Shape.isPlace_append_iff.1 hindex
  have hplace : Shape.IsPlace
      (if keep then tensor.shape.set outer.length 1 else tensor.shape.eraseIdx outer.length)
      (if keep then (before ++ after).insertIdx outer.length 0 else before ++ after) := by
    rw [hshape, Shape.set_around, Shape.eraseIdx_around, hbefore.insertIdx_append]
    cases keep with
    | true => exact hbefore.append (.cons Nat.one_pos hafter)
    | false => exact hindex
  have hothers : otherAxes outer.length keep
      (if keep then (before ++ after).insertIdx outer.length 0 else before ++ after) =
        before ++ after := by
    rw [hbefore.insertIdx_append]
    cases keep with
    | true => exact hbefore.eraseIdx_append 0 after
    | false => rfl
  obtain ⟨x, hx, hentry⟩ := hresult.exists_entry hplace
  rw [hothers] at hx
  obtain ⟨terms, hterms, rfl⟩ := Option.map_eq_some_iff.1 hx
  exact ⟨terms, hterms, hentry⟩

/-- Both reductions fail exactly if there is no such axis. Otherwise every entry of the sum is the line at
its place added up from zero in increasing order, which is zero for an empty axis, and every entry of
the mean is that sum divided by the extent. The loops that add in place to the sums of all lines
compute the same. This is for results that memory can hold: beside an empty axis they may have more
elements than the tensor, and a buffer of `2 ^ 63` bytes or more cannot be allocated. -/
theorem reductions_add_every_line [Zero α] [Add α] [Div α] [NatCast α] (h : tensor.WellFormed)
    (axis : Nat) :
    (∀ keep, Guarded.sumAxis tensor axis keep = Guarded.Run.safe (tensor.sumAxis axis keep) ∧
      Guarded.meanAxis tensor axis keep = Guarded.Run.safe (tensor.meanAxis axis keep)) ∧
    (¬axis < tensor.rank → ∀ keep,
      tensor.sumAxis axis keep = .error (.invalidAxis axis tensor.rank) ∧
      tensor.meanAxis axis keep = .error (.invalidAxis axis tensor.rank)) ∧
    (axis < tensor.rank → ∃ sum mean : Bool → Tensor S α,
      (∀ keep, tensor.sumAxis axis keep = .ok (sum keep) ∧
        (sum keep).Reduces tensor axis keep total ∧
        tensor.meanAxis axis keep = .ok (mean keep) ∧
        (mean keep).Reduces tensor axis keep fun terms =>
          total terms / ((tensor.shape.getD axis 0 : Nat) : α)) ∧
      (sum true).data = (sum false).data ∧ (mean true).data = (mean false).data ∧
      (tensor.shape.getD axis 0 = 0 → ∀ keep index, (sum keep).shape.IsPlace index →
        (sum keep).element? index = some 0)) := by
  refine ⟨fun keep => ⟨Guarded.sumAxis_eq h axis keep, Guarded.meanAxis_eq h axis keep⟩,
    fun haxis keep => ⟨sumAxis_eq_error tensor haxis keep, meanAxis_eq_error haxis keep⟩,
    fun haxis => ?_⟩
  choose sum hsum hsums using fun keep => makes_sumAxis h haxis keep
  choose mean hmean hmeans using fun keep => makes_meanAxis h haxis keep
  refine ⟨sum, mean, fun keep => ⟨hsum keep, (hsums keep).reduces haxis, hmean keep,
    (hmeans keep).reduces haxis⟩, ?_, ?_, fun hempty keep index hindex => ?_⟩
  · exact (data_sumAxis haxis (hsum true)).trans (data_sumAxis haxis (hsum false)).symm
  · exact (data_meanAxis haxis (hmean true)).trans (data_meanAxis haxis (hmean false)).symm
  · rw [(hsums keep).shape_eq] at hindex
    rw [(hsums keep).element?_eq index hindex, line?, hempty]
    rfl

/-- Lines of two elements added up and averaged, and sums over an empty axis between two others. -/
theorem reductions_add_lines_of_two_and_of_none :
    let tensor : Tensor HeapStorage Nat := { storage := ⟨#[1, 5, 9, 3, 7, 13]⟩, shape := [2, 3] }
    let empty : Tensor HeapStorage Nat := { storage := ⟨#[]⟩, shape := [2, 0, 3] }
    (tensor.WellFormed ∧ ∃ sum mean, tensor.sumAxis 0 false = .ok sum ∧
      sum.shape = [3] ∧ sum.element? [2] = some 22 ∧ tensor.meanAxis 0 true = .ok mean ∧
      mean.shape = [1, 3] ∧ mean.element? [0, 2] = some 11) ∧
    empty.WellFormed ∧ ∃ sum, empty.sumAxis 1 false = .ok sum ∧ sum.shape = [2, 3] ∧
      ∀ index, Shape.IsPlace [2, 3] index → sum.element? index = some 0 := by
  intro tensor empty
  have hwell : tensor.WellFormed := by decide
  have hempty : empty.WellFormed := by decide
  have hline : tensor.line? 0 [2] = some [9, 13] := by decide
  refine ⟨⟨hwell, ?_⟩, hempty, ?_⟩
  · obtain ⟨-, -, hok⟩ := reductions_add_every_line hwell 0
    obtain ⟨sum, mean, hboth, -⟩ := hok (by decide)
    obtain ⟨hsum, hsums, -, -⟩ := hboth false
    obtain ⟨-, -, hmean, hmeans⟩ := hboth true
    obtain ⟨terms, hterms, htotal⟩ := hsums.element?_eq [2] (by decide)
    obtain ⟨terms', hterms', haverage⟩ := hmeans.element?_eq [2] (by decide)
    obtain rfl := Option.some.inj (hline.symm.trans hterms)
    obtain rfl := Option.some.inj (hline.symm.trans hterms')
    exact ⟨sum false, mean true, hsum, hsums.shape_eq, htotal, hmean, hmeans.shape_eq,
      haverage.trans (by decide)⟩
  · obtain ⟨-, -, hok⟩ := reductions_add_every_line hempty 1
    obtain ⟨sum, _, hboth, -, -, hzero⟩ := hok (by decide)
    obtain ⟨hmade, hreduces, -, -⟩ := hboth false
    have hshape : (sum false).shape = [2, 3] := hreduces.shape_eq
    refine ⟨sum false, hmade, hshape, fun index hindex => ?_⟩
    exact hzero (by decide) false index (by rwa [hshape])

end Tensor

end ShapeAssert
