import Mathlib.Data.List.InsertIdx
import ShapeAssert.Proofs.Tensor.Permute
import ShapeAssert.Proofs.Tensor.Reduction
import ShapeAssert.Proofs.Tensor.Slice

/-! Reductions of tensors under another layout. A reduction that keeps its axis makes one value of every
line along it, so all that matters is which entries a line runs through, and in which order. Reordering
the axes leaves every line as it is, under the new number of its axis; joining tensors leaves the
lines along every other axis as they are. So a reduction may be taken before or after. -/

namespace ShapeAssert

namespace Tensor

variable {S : Type → Type} [Storage S] {α : Type}

/-! ### Lines through a place -/

/-- The value of the line along an axis through a place, which runs through `count` entries. -/
def valueAlong? (value : Nat → List α → α) (count axis : Nat) (entry : List Nat → Option α)
    (index : List Nat) : Option α :=
  ((List.range count).mapM fun k => entry (index.set axis k)).map (value count)

variable {value : Nat → List α → α} {tensor joined : Tensor S α} {axis other : Nat}

/-- Lines through the same entries have the same value, whatever axes they run along. -/
theorem valueAlong?_congr {count : Nat} {entry entry' : List Nat → Option α} {index index' : List Nat}
    (h : ∀ k < count, entry (index.set axis k) = entry' (index'.set other k)) :
    valueAlong? value count axis entry index = valueAlong? value count other entry' index' := by
  rw [valueAlong?, valueAlong?, mapM_congr fun k hk => h k (List.mem_range.1 hk)]

/-- A line along a reordered axis, put back in order, is one along the axis that the order names. -/
theorem valueAlong?_restore {shape : Shape} {order index : List Nat} {j : Nat}
    (horder : shape.IsOrder order) (hj : order[j]? = some axis) (hindex : index.length = order.length)
    (count : Nat) (entry : List Nat → Option α) :
    valueAlong? value count j (fun index => entry (Shape.restore order index)) index =
      valueAlong? value count axis entry (Shape.restore order index) := by
  refine valueAlong?_congr fun k _ => ?_
  rw [horder.restore_set hindex hj]

/-- A line at a place on the other axes runs through every place with the same coordinates there. -/
theorem line?_eraseIdx {index : List Nat} (haxis : axis < index.length) :
    tensor.line? axis (index.eraseIdx axis) =
      (List.range (tensor.shape.getD axis 0)).mapM fun k => tensor.element? (index.set axis k) := by
  refine mapM_congr fun k _ => ?_
  rw [List.insertIdx_eraseIdx_self (Nat.ne_of_lt haxis)]

/-- The lines of a reduction that keeps its axis are those through the places of its shape. -/
theorem Makes.valueAlong? {made : Except Error (Tensor S α)}
    (h : Makes made (tensor.shape.set axis 1) fun index =>
      (tensor.line? axis (index.eraseIdx axis)).map (value (tensor.shape.getD axis 0)))
    (haxis : axis < tensor.rank) : Makes made (tensor.shape.set axis 1)
      (Tensor.valueAlong? value (tensor.shape.getD axis 0) axis tensor.element?) := by
  refine h.congr fun index hindex => ?_
  have hlt : axis < index.length := by
    rw [hindex.length_eq, List.length_set]
    exact haxis
  rw [line?_eraseIdx hlt, Tensor.valueAlong?]

/-- A reduction keeps its axis, with extent one, and makes one value of every line along it. -/
structure IsReduction (reduce : Tensor S α → Nat → Except Error (Tensor S α))
    (value : Nat → List α → α) : Prop where
  makes : ∀ {tensor : Tensor S α} {axis : Nat}, tensor.WellFormed → axis < tensor.rank →
    Makes (reduce tensor axis) (tensor.shape.set axis 1)
      (valueAlong? value (tensor.shape.getD axis 0) axis tensor.element?)
  eq_error : ∀ {tensor : Tensor S α} {axis : Nat}, ¬axis < tensor.rank →
    reduce tensor axis = .error (.invalidAxis axis tensor.rank)

theorem isReduction_sumAxis [Zero α] [Add α] :
    IsReduction (fun tensor : Tensor S α => (tensor.sumAxis · true)) fun _ => total where
  makes h haxis := (makes_sumAxis h haxis true).valueAlong? haxis
  eq_error haxis := sumAxis_eq_error _ haxis true

theorem isReduction_meanAxis [Zero α] [Add α] [Div α] [NatCast α] :
    IsReduction (fun tensor : Tensor S α => (tensor.meanAxis · true))
      fun count terms => total terms / (count : α) where
  makes h haxis := (makes_meanAxis h haxis true).valueAlong? haxis
  eq_error haxis := meanAxis_eq_error haxis true

/-! ### Joined tensors -/

section Joined

/-- A tensor holds the value of every line of another one along an axis. -/
def Reduced (value : Nat → List α → α) (axis : Nat) (tensor result : Tensor S α) : Prop :=
  result.HasEntries (tensor.shape.set axis 1)
    (valueAlong? value (tensor.shape.getD axis 0) axis tensor.element?)

variable {first first' : Tensor S α} {rest rest' tensors results : List (Tensor S α)}

/-- Along another axis the values of the lines reach as far as the tensors. -/
theorem along_reduced (h : List.Forall₂ (Reduced value other) tensors results) (hother : other ≠ axis) :
    along axis results = along axis tensors := by
  induction h with
  | nil => rfl
  | cons hfirst _ ih =>
      rw [along_cons, along_cons, hfirst.shape_eq, Shape.getD_set_ne hother.symm, ih]

/-- What is made of tensors that can be joined can be joined as well. -/
theorem Compatible.reduced (h : Compatible first rest axis) (hlt : other < first.rank)
    (hother : other ≠ axis) (hfirst : Reduced value other first first')
    (hrest : List.Forall₂ (Reduced value other) rest rest') : Compatible first' rest' axis := by
  have hrank {tensor result : Tensor S α} (hreduced : Reduced value other tensor result) :
      result.rank = tensor.rank := by
    rw [rank, hreduced.shape_eq, List.length_set, rank]
  have halong : along axis (first' :: rest') = along axis (first :: rest) :=
    along_reduced (.cons hfirst hrest) hother
  refine
    { axis_lt := ?axis
      rank_eq := fun result hmem => ?rank
      extent_eq := fun result hmem turn hturn => ?extent
      along_lt := halong ▸ h.along_lt
      addressable := ?addressable }
  case axis =>
    rw [hrank hfirst]
    exact h.axis_lt
  case rank =>
    obtain ⟨tensor, htensor, hreduced⟩ := exists_of_mem_forall₂ hrest hmem
    rw [hrank hreduced, hrank hfirst, h.rank_eq tensor htensor]
  case extent =>
    obtain ⟨tensor, htensor, hreduced⟩ := exists_of_mem_forall₂ hrest hmem
    have hlength : tensor.shape.length = first.shape.length := h.rank_eq tensor htensor
    rw [hreduced.shape_eq, hfirst.shape_eq, List.getElem?_set, List.getElem?_set, hlength,
      h.extent_eq tensor htensor turn hturn]
  case addressable =>
    -- an axis of extent one never makes a shape larger
    rw [halong, hfirst.shape_eq, List.set_comm _ _ hother]
    exact h.addressable.set (by rwa [List.length_set]) (Nat.le_max_left 1 _)

/-- A line along another axis lies within one of the tensors. -/
theorem joined?_reduced (h : List.Forall₂ (Reduced value other) tensors results)
    (hother : other ≠ axis) {shape : Shape} (haxis : axis < shape.length)
    (hshape : ∀ tensor ∈ tensors, tensor.shape = shape.set axis (tensor.shape.getD axis 0))
    {extent : Nat} {index : List Nat} (hindex : Shape.IsPlace ((shape.set other 1).set axis extent) index)
    (hlt : index.getD axis 0 < along axis tensors) :
    joined? axis results index =
      valueAlong? value (shape.getD other 0) other (joined? axis tensors) index := by
  induction h generalizing extent index with
  | nil => exact absurd hlt (Nat.not_lt_zero _)
  | @cons tensor result tensors results hfirst _ ih =>
      obtain ⟨htensor, hrest⟩ := List.forall_mem_cons.1 hshape
      have hextent : result.shape.getD axis 0 = tensor.shape.getD axis 0 := by
        rw [hfirst.shape_eq, Shape.getD_set_ne hother.symm]
      have hcount : tensor.shape.getD other 0 = shape.getD other 0 := by
        rw [htensor, Shape.getD_set_ne hother]
      have hsame (k : Nat) : (index.set other k).getD axis 0 = index.getD axis 0 :=
        Shape.getD_set_ne hother.symm k
      rw [joined?, hextent]
      by_cases hin : index.getD axis 0 < tensor.shape.getD axis 0
      · have hplace := hindex.modify axis (f := id) hin
        rw [List.modify_id, List.set_set, List.set_comm _ _ hother, ← htensor] at hplace
        rw [if_pos hin, hfirst.element?_eq index hplace, hcount]
        refine valueAlong?_congr fun k _ => ?_
        rw [joined?, hsame, if_pos hin]
      · -- the line goes on behind the first tensor
        have hplace := hindex.modify axis (f := (· - tensor.shape.getD axis 0)) (Nat.lt_succ_self _)
        rw [List.set_set] at hplace
        have hbehind : (index.modify axis (· - tensor.shape.getD axis 0)).getD axis 0 <
            along axis tensors := by
          have hbound : axis < index.length := by
            rwa [hindex.length_eq, List.length_set, List.length_set]
          rw [along_cons] at hlt
          rw [Shape.modify_eq_set, Shape.getD_set hbound]
          omega
        rw [if_neg hin, ih hrest hplace hbehind]
        refine valueAlong?_congr fun k _ => ?_
        rw [joined?, hsame, if_neg hin, Shape.modify_eq_set, Shape.modify_eq_set, hsame,
          List.set_comm _ _ hother]

end Joined

/-! ### Reductions under another layout -/

namespace IsReduction

variable {first : Tensor S α} {rest tensors : List (Tensor S α)}
  {reduce : Tensor S α → Nat → Except Error (Tensor S α)} (hreduce : IsReduction reduce value)
include hreduce

/-- A reduction of a tensor that is known by its entries. -/
theorem makes_of_hasEntries {shape : Shape} {entry : List Nat → Option α}
    (h : tensor.HasEntries shape entry) (haxis : axis < shape.length) :
    Makes (reduce tensor axis) (shape.set axis 1)
      (valueAlong? value (shape.getD axis 0) axis entry) := by
  obtain rfl := h.shape_eq
  refine (hreduce.makes h.wellFormed haxis).congr fun index hindex => ?_
  exact valueAlong?_congr fun k hk => h.element?_eq _ (hindex.of_set haxis hk)

/-- The lines along the axis that an order names are those of the reordered tensor along the axis at
its turn. -/
theorem permute (h : tensor.WellFormed) {order : List Nat}
    (horder : tensor.shape.IsOrder order) {j : Nat} (hj : order[j]? = some axis) :
    ∃ result, (tensor.permute order >>= fun moved => reduce moved j) = .ok result ∧
      (reduce tensor axis >>= fun reduced => reduced.permute order) = .ok result := by
  have haxis : axis < tensor.shape.length := horder.lt (List.mem_of_getElem? hj)
  have hlt : j < (tensor.shape.reorder order).length := by
    rw [Shape.length_reorder]
    exact (List.getElem?_eq_some_iff.1 hj).1
  have hset : Shape.IsOrder (tensor.shape.set axis 1) order := by
    rwa [Shape.IsOrder, List.length_set]
  have hafter := (makes_permute h horder).bind fun moved hmoved =>
    hreduce.makes_of_hasEntries hmoved.hasEntries hlt
  have hbefore := (hreduce.makes h haxis).bind fun reduced hreduced =>
    hreduced.hasEntries.makes_permute hset
  rw [horder.reorder_set rfl hj] at hbefore
  rw [Shape.getD_reorder hj] at hafter
  have hsame := hafter.eq hbefore fun index hindex =>
    valueAlong?_restore horder hj (by rw [hindex.length_eq, List.length_set, Shape.length_reorder]) _ _
  obtain ⟨result, hresult, -⟩ := hbefore
  exact ⟨result, hsame.trans hresult, hresult⟩

theorem exists_reduced (h : ∀ tensor ∈ tensors, tensor.WellFormed ∧ axis < tensor.rank) :
    ∃ results, (tensors.mapM fun tensor => reduce tensor axis) = .ok results ∧
      List.Forall₂ (Reduced value axis) tensors results := by
  induction tensors with
  | nil => exact ⟨[], rfl, .nil⟩
  | cons tensor tensors ih =>
      obtain ⟨⟨hwell, haxis⟩, hrest⟩ := List.forall_mem_cons.1 h
      obtain ⟨result, hresult, hmade⟩ := hreduce.makes hwell haxis
      obtain ⟨results, hresults, hreduced⟩ := ih hrest
      refine ⟨result :: results, ?_, .cons hmade.hasEntries hreduced⟩
      rw [List.mapM_cons, hresult, hresults]
      rfl

/-- The joined reductions of tensors that can be joined hold the values of the lines of the whole. -/
theorem makes_concat (hwell : ∀ tensor ∈ first :: rest, tensor.WellFormed)
    (h : Compatible first rest axis) (hlt : other < first.rank) (hother : other ≠ axis) :
    Makes
      (((first :: rest).mapM fun tensor => reduce tensor other) >>= fun results => concat results axis)
      ((first.shape.set other 1).set axis (along axis (first :: rest)))
      (valueAlong? value (first.shape.getD other 0) other (joined? axis (first :: rest))) := by
  have hin (tensor : Tensor S α) (hmem : tensor ∈ first :: rest) : other < tensor.rank := by
    rw [rank, h.shape_eq hmem, List.length_set]
    exact hlt
  obtain ⟨results, hresults, hreduced⟩ := hreduce.exists_reduced fun tensor hmem =>
    And.intro (hwell tensor hmem) (hin tensor hmem)
  have hwells (result : Tensor S α) (hmem : result ∈ results) : result.WellFormed := by
    obtain ⟨_, -, hresult⟩ := exists_of_mem_forall₂ hreduced hmem
    exact hresult.wellFormed
  have halong := along_reduced hreduced hother
  rw [hresults]
  cases hreduced with
  | @cons _ first' _ rest' hfirst hrest =>
      have hmade := (h.reduced hlt hother hfirst hrest).makes_concat hwells
      rw [hfirst.shape_eq, halong] at hmade
      refine hmade.congr fun index hindex => ?_
      refine joined?_reduced (.cons hfirst hrest) hother h.axis_lt (fun _ => h.shape_eq) hindex ?_
      have haxis : axis < (first.shape.set other 1).length := by
        rw [List.length_set]
        exact h.axis_lt
      have hbound := hindex.getD_lt (by rwa [List.length_set])
      rwa [Shape.getD_set haxis] at hbound

/-- A reduction of joined tensors along another axis joins their reductions. -/
theorem concat (hwell : ∀ tensor ∈ tensors, tensor.WellFormed)
    (hjoined : concat tensors axis = .ok joined) (hother : other ≠ axis) :
    ((tensors.mapM fun tensor => reduce tensor other) >>= fun results => concat results axis) =
        reduce joined other ∧
      (other < joined.rank → ∃ result, reduce joined other = .ok result) := by
  cases tensors with
  | nil => cases hjoined
  | cons first rest =>
      have h := (exists_concat_iff hwell).1 ⟨joined, hjoined⟩
      have hmade := ((h.makes_concat hwell).tabulates hjoined).hasEntries
      have hrank : joined.rank = first.rank := by
        rw [rank, hmade.shape_eq, List.length_set, rank]
      refine ⟨?_, fun hlt => ?_⟩
      · by_cases hlt : other < first.rank
        · have hwhole := hreduce.makes_of_hasEntries hmade (by rwa [List.length_set])
          rw [Shape.getD_set_ne hother, List.set_comm _ _ hother.symm] at hwhole
          exact (hreduce.makes_concat hwell h hlt hother).eq hwhole fun _ _ => rfl
        · -- the first reduction already refuses the axis
          rw [List.mapM_cons, hreduce.eq_error hlt, hreduce.eq_error (hrank ▸ hlt), hrank]
          rfl
      · obtain ⟨result, hresult, -⟩ := hreduce.makes hmade.wellFormed hlt
        exact ⟨result, hresult⟩

end IsReduction

/-- The sum, and the mean, along an axis of a reordered tensor is that along the axis which the order
names there, reordered; both can always be taken. And the sum, and the mean, of joined tensors along
any other axis is made by joining those of the parts, refused alike if there is no such axis. Every line
is added up in the same order, so nothing is asked of the addition. -/
theorem reductions_commute_with_layout [Zero α] [Add α] [Div α] [NatCast α] :
    (∀ (tensor : Tensor S α) (order : List Nat), tensor.WellFormed →
      order.Perm (List.range tensor.rank) → ∀ j axis, order[j]? = some axis →
      (∃ result,
        (do let moved ← tensor.permute order; moved.sumAxis j true) = .ok result ∧
        (do let sum ← tensor.sumAxis axis true; sum.permute order) = .ok result) ∧
      ∃ result,
        (do let moved ← tensor.permute order; moved.meanAxis j true) = .ok result ∧
        (do let mean ← tensor.meanAxis axis true; mean.permute order) = .ok result) ∧
    ∀ (tensors : List (Tensor S α)) (joined : Tensor S α) (axis other : Nat),
      (∀ tensor ∈ tensors, tensor.WellFormed) → concat tensors axis = .ok joined → other ≠ axis →
      (do let sums ← tensors.mapM (·.sumAxis other true); concat sums axis) =
        joined.sumAxis other true ∧
      (do let means ← tensors.mapM (·.meanAxis other true); concat means axis) =
        joined.meanAxis other true ∧
      (other < joined.rank →
        (∃ sum, joined.sumAxis other true = .ok sum) ∧
        ∃ mean, joined.meanAxis other true = .ok mean) := by
  refine ⟨fun tensor order h horder j axis hj => ⟨?_, ?_⟩,
    fun tensors joined axis other hwell hjoined hother => ?_⟩
  · exact isReduction_sumAxis.permute h horder hj
  · exact isReduction_meanAxis.permute h horder hj
  · obtain ⟨hsums, hsum⟩ := isReduction_sumAxis.concat hwell hjoined hother
    obtain ⟨hmeans, hmean⟩ := isReduction_meanAxis.concat hwell hjoined hother
    exact ⟨hsums, hmeans, fun hlt => ⟨hsum hlt, hmean hlt⟩⟩

/-- An order of three axes that is not its own inverse, and two matrices that stand side by side. -/
theorem reductions_commute_with_order_of_three_axes :
    let tensor : Tensor HeapStorage Nat := { storage := ⟨#[1, 2, 3, 4, 5, 6]⟩, shape := [1, 2, 3] }
    let left : Tensor HeapStorage Nat := { storage := ⟨#[1, 2]⟩, shape := [2, 1] }
    let right : Tensor HeapStorage Nat := { storage := ⟨#[3, 4, 5, 6]⟩, shape := [2, 2] }
    let joined : Tensor HeapStorage Nat := { storage := ⟨#[1, 3, 4, 2, 5, 6]⟩, shape := [2, 3] }
    tensor.WellFormed ∧ [2, 0, 1].Perm (List.range tensor.rank) ∧
      (do let moved ← tensor.permute [2, 0, 1]; moved.sumAxis 2 true) =
        .ok { storage := ⟨#[5, 7, 9]⟩, shape := [3, 1, 1] } ∧
      (∀ part ∈ [left, right], part.WellFormed) ∧ concat [left, right] 1 = .ok joined ∧
      (do let means ← [left, right].mapM (·.meanAxis 0 true); concat means 1) =
        joined.meanAxis 0 true := by
  intro tensor left right joined
  have hwell : tensor.WellFormed := by decide
  have horder : [2, 0, 1].Perm (List.range tensor.rank) := by decide
  have hparts : ∀ part ∈ [left, right], part.WellFormed := by decide
  have hjoined : concat [left, right] 1 = .ok joined := by cbv
  obtain ⟨hpermute, hconcat⟩ := @reductions_commute_with_layout HeapStorage _ Nat _ _ _ _
  obtain ⟨⟨result, hmoved, hsum⟩, -⟩ := hpermute tensor [2, 0, 1] hwell horder 2 1 rfl
  obtain ⟨-, hmean, -⟩ := hconcat _ joined 1 0 hparts hjoined (by decide)
  have hvalue : (do let sum ← tensor.sumAxis 1 true; sum.permute [2, 0, 1]) =
      .ok { storage := ⟨#[5, 7, 9]⟩, shape := [3, 1, 1] } := by cbv
  exact ⟨hwell, horder, hmoved.trans (hsum.symm.trans hvalue), hparts, hjoined, hmean⟩

end Tensor

end ShapeAssert
