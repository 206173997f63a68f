import Mathlib.Data.List.Nodup
import ShapeAssert.Proofs.Shape.Strides

/-! Reordering the axes of a shape. An order is accepted exactly if it names every axis once. The
reordered strides then lead from a place of the reordered shape to where the plain strides lead from
the place with its positions put back in order. -/

namespace ShapeAssert

namespace Shape

variable {shape : Shape} {order : List Nat}

theorem map_getD_range (numbers : List Nat) :
    (List.range numbers.length).map (fun axis => numbers.getD axis 0) = numbers := by
  refine List.ext_getElem (by simp) fun axis _ haxis => ?_
  rw [List.getElem_map, List.getElem_range, List.getD_eq_getElem _ _ haxis]

/-- The extents of the axes that an order names. -/
def reorder (shape : Shape) (order : List Nat) : Shape :=
  order.map fun axis => shape.getD axis 0

@[simp] theorem length_reorder (numbers order : List Nat) :
    (reorder numbers order).length = order.length :=
  List.length_map ..

theorem getD_reorder {j axis : Nat} (hj : order[j]? = some axis) (numbers : List Nat) :
    (reorder numbers order).getD j 0 = numbers.getD axis 0 := by
  rw [reorder, List.getD_eq_getElem?_getD, List.getElem?_map, hj]
  rfl

theorem getElem?_reorder {numbers : List Nat} {j axis : Nat} (hj : order[j]? = some axis)
    (haxis : axis < numbers.length) : (reorder numbers order)[j]? = numbers[axis]? := by
  rw [reorder, List.getElem?_map, hj, Option.map_some, List.getD_eq_getElem _ _ haxis,
    List.getElem?_eq_getElem haxis]

theorem pick_eq_ok {axes seen : List Nat} {extents : Shape} :
    shape.pick order axes seen = .ok extents ↔
      (∀ axis ∈ axes, axis < shape.length) ∧ axes.Nodup ∧ (∀ axis ∈ axes, axis ∉ seen) ∧
        extents = shape.reorder axes := by
  induction axes generalizing seen extents with
  | nil => simp [pick, reorder, eq_comm]
  | cons axis axes ih =>
      rw [pick, checkAxis]
      by_cases haxis : axis < shape.length
      swap
      · simp [haxis, bind, Except.bind]
      by_cases hseen : axis ∈ seen
      · simp [haxis, hseen, bind, Except.bind]
      rw [if_pos haxis, if_neg hseen]
      change (shape.pick order axes (axis :: seen) >>= fun rest =>
        Except.ok (shape.getD axis 0 :: rest)) = .ok extents ↔ _
      simp only [bind_eq_ok, ih, Except.ok.injEq, List.forall_mem_cons, List.nodup_cons]
      constructor
      · rintro ⟨rest, ⟨hlt, hnodup, hfresh, rfl⟩, rfl⟩
        refine ⟨⟨haxis, hlt⟩, ⟨fun hmem => ?_, hnodup⟩, ⟨hseen, fun other hmem => ?_⟩, rfl⟩
        · exact hfresh axis hmem List.mem_cons_self
        · exact fun hother => hfresh other hmem (List.mem_cons_of_mem _ hother)
      · rintro ⟨⟨-, hlt⟩, ⟨hnotin, hnodup⟩, ⟨-, hfresh⟩, rfl⟩
        refine ⟨_, ⟨hlt, hnodup, fun other hmem hother => ?_, rfl⟩, rfl⟩
        rcases List.mem_cons.1 hother with rfl | hother
        · exact hnotin hmem
        · exact hfresh other hmem hother

/-- Picking stops at the first axis that does not exist or was picked before. -/
theorem pick_eq_error {axes seen : List Nat} (hseen : seen.Nodup) {e : Error} :
    shape.pick order axes seen = .error e ↔ ∃ before axis after, axes = before ++ axis :: after ∧
      (∀ other ∈ before, other < shape.length) ∧ (before.reverse ++ seen).Nodup ∧
        (shape.length ≤ axis ∧ e = .invalidAxis axis shape.length ∨
          axis < shape.length ∧ axis ∈ before.reverse ++ seen ∧
            e = .incompatibleShapes shape order) := by
  induction axes generalizing seen with
  | nil => simp [pick]
  | cons axis axes ih =>
      rw [pick, checkAxis, exists_split_cons]
      simp only [List.reverse_cons, List.append_assoc, List.singleton_append]
      by_cases haxis : axis < shape.length
      swap
      · simp [haxis, hseen, bind, Except.bind, Nat.not_lt.1 haxis, eq_comm]
      by_cases hused : axis ∈ seen
      · have hnodup (before : List Nat) : ¬(before.reverse ++ axis :: seen).Nodup := fun h =>
          (List.nodup_cons.1 (List.nodup_append.1 h).2.1).1 hused
        simp [haxis, hseen, hused, hnodup, bind, Except.bind, Nat.not_le.2 haxis, eq_comm]
      rw [if_pos haxis, if_neg hused]
      change (shape.pick order axes (axis :: seen) >>= fun rest =>
        Except.ok (shape.getD axis 0 :: rest)) = .error e ↔ _
      simp [bind_eq_error, ih (List.nodup_cons.2 ⟨hused, hseen⟩), haxis, hused, Nat.not_le.2 haxis]

/-- An order names every axis once. -/
def IsOrder (shape : Shape) (order : List Nat) : Prop :=
  order.Perm (List.range shape.length)

theorem isOrder_iff : shape.IsOrder order ↔
    order.length = shape.length ∧ (∀ axis ∈ order, axis < shape.length) ∧ order.Nodup := by
  constructor
  · intro h
    refine ⟨by rw [h.length_eq, List.length_range], fun axis hmem => ?_,
      h.nodup_iff.2 List.nodup_range⟩
    exact List.mem_range.1 (h.mem_iff.1 hmem)
  · rintro ⟨hlength, hlt, hnodup⟩
    have hsubset : order ⊆ List.range shape.length := fun axis hmem => List.mem_range.2 (hlt axis hmem)
    have hle : (List.range shape.length).length ≤ order.length := by
      rw [List.length_range]
      exact Nat.le_of_eq hlength.symm
    exact (List.subperm_of_subset hnodup hsubset).perm_of_length_le hle

theorem permute_eq_ok {result : Shape} :
    shape.permute order = .ok result ↔ shape.IsOrder order ∧ result = shape.reorder order := by
  rw [permute, isOrder_iff]
  by_cases hlength : order.length = shape.length
  · simp [hlength, pick_eq_ok, and_assoc]
  · simp [hlength]

/-- Why an order is refused: it does not name as many axes as there are, or it comes, after axes that
exist and are named once, to an axis that does not exist or to one that it has named. -/
inductive Refuses (shape : Shape) (order : List Nat) : Error → Prop where
  | length (hlength : order.length ≠ shape.length) :
      Refuses shape order (.incompatibleShapes shape order)
  | missing {before after : List Nat} {axis : Nat} (hlength : order.length = shape.length)
      (horder : order = before ++ axis :: after) (hbefore : before.Nodup)
      (hlt : ∀ other ∈ before, other < shape.length) (haxis : shape.length ≤ axis) :
      Refuses shape order (.invalidAxis axis shape.length)
  | repeated {before after : List Nat} {axis : Nat} (hlength : order.length = shape.length)
      (horder : order = before ++ axis :: after) (hbefore : before.Nodup)
      (hlt : ∀ other ∈ before, other < shape.length) (haxis : axis ∈ before) :
      Refuses shape order (.incompatibleShapes shape order)

theorem permute_eq_error {e : Error} : shape.permute order = .error e ↔ shape.Refuses order e := by
  rw [permute]
  by_cases hlength : order.length = shape.length
  · rw [if_pos hlength, pick_eq_error List.nodup_nil]
    simp only [List.append_nil, (List.reverse_perm _).nodup_iff, List.mem_reverse]
    constructor
    · rintro ⟨before, axis, after, horder, hlt, hnodup, ⟨haxis, rfl⟩ | ⟨-, hused, rfl⟩⟩
      · exact .missing hlength horder hnodup hlt haxis
      · exact .repeated hlength horder hnodup hlt hused
    · rintro (hne | ⟨-, horder, hnodup, hlt, haxis⟩ | ⟨-, horder, hnodup, hlt, haxis⟩)
      · exact absurd hlength hne
      · exact ⟨_, _, _, horder, hlt, hnodup, .inl ⟨haxis, rfl⟩⟩
      · exact ⟨_, _, _, horder, hlt, hnodup, .inr ⟨hlt _ haxis, haxis, rfl⟩⟩
  · rw [if_neg hlength]
    constructor
    · intro h
      obtain rfl := Except.error.inj h
      exact .length hlength
    · rintro (- | ⟨heq, -⟩ | ⟨heq, -⟩)
      · rfl
      · exact absurd heq hlength
      · exact absurd heq hlength

namespace IsOrder

variable (h : shape.IsOrder order)
include h

theorem length_eq : order.length = shape.length :=
  (isOrder_iff.1 h).1

theorem lt {axis : Nat} (haxis : axis ∈ order) : axis < shape.length :=
  (isOrder_iff.1 h).2.1 axis haxis

theorem nodup : order.Nodup :=
  (isOrder_iff.1 h).2.2

theorem mem {axis : Nat} (haxis : axis < shape.length) : axis ∈ order :=
  h.mem_iff.2 (List.mem_range.2 haxis)

theorem reorder_perm : (shape.reorder order).Perm shape := by
  have hperm := List.Perm.map (fun axis => shape.getD axis 0) h
  rwa [map_getD_range] at hperm

theorem paddedProduct_reorder : paddedProduct (shape.reorder order) = shape.paddedProduct :=
  paddedProduct_perm h.reorder_perm

theorem addressable_reorder (ha : shape.Addressable) : Addressable (shape.reorder order) :=
  addressable_of_le ha (Nat.le_of_eq h.paddedProduct_reorder)

end IsOrder

/-! ### Places under an order -/

/-- The positions of a reordered place on the axes in their own order. -/
def restore (order index : List Nat) : List Nat :=
  (List.range order.length).map fun axis => index.getD (order.idxOf axis) 0

theorem length_restore (order index : List Nat) : (restore order index).length = order.length := by
  rw [restore, List.length_map, List.length_range]

namespace IsOrder

variable (h : shape.IsOrder order) {index : List Nat}
include h

/-- The position on an axis is where the order names the axis. -/
theorem map_getD_idxOf (hindex : index.length = order.length) :
    order.map (fun axis => index.getD (order.idxOf axis) 0) = index := by
  refine List.ext_getElem (by rw [List.length_map, hindex]) fun i hi hi' => ?_
  have hlt : i < order.length := hindex ▸ hi'
  rw [List.getElem_map, h.nodup.idxOf_getElem i hlt, List.getD_eq_getElem _ _ hi']

/-- A reordered place put back in order and reordered again. -/
theorem reorder_restore (hindex : index.length = order.length) :
    reorder (restore order index) order = index := by
  conv_rhs => rw [← h.map_getD_idxOf hindex]
  refine List.map_congr_left fun axis hmem => ?_
  have haxis : axis < (restore order index).length := by
    rw [length_restore, h.length_eq]
    exact h.lt hmem
  rw [List.getD_eq_getElem _ _ haxis]
  simp only [restore, List.getElem_map, List.getElem_range]

/-- Only one place is reordered to a given one. -/
theorem restore_reorder {source : List Nat} (hsource : source.length = order.length) :
    restore order (reorder source order) = source := by
  refine List.ext_getElem (by simp [restore, hsource]) fun axis haxis hlt => ?_
  have hmem : axis ∈ order := h.mem (by rwa [← h.length_eq, ← hsource])
  have hplace : order.idxOf axis < (reorder source order).length := by
    rw [length_reorder]
    exact List.idxOf_lt_length_of_mem hmem
  simp only [restore, List.getElem_map, List.getElem_range]
  rw [List.getD_eq_getElem _ _ hplace]
  simp only [reorder, List.getElem_map, List.getElem_idxOf]
  exact List.getD_eq_getElem _ _ hlt

/-- A number on an axis stands, reordered, where the order names the axis. -/
theorem reorder_set {source : List Nat} (hsource : source.length = shape.length) {j axis : Nat}
    (hj : order[j]? = some axis) (k : Nat) :
    reorder (source.set axis k) order = (reorder source order).set j k := by
  obtain ⟨hlt, hget⟩ := List.getElem?_eq_some_iff.1 hj
  refine List.ext_getElem (by simp [reorder]) fun i hi hi' => ?_
  have hplace : i < order.length := by
    rwa [length_reorder] at hi
  have haxis : order[i] < source.length := hsource ▸ h.lt (List.getElem_mem hplace)
  have hsame : axis = order[i] ↔ j = i := by
    rw [← hget]
    exact h.nodup.getElem_inj_iff
  simp only [reorder, List.getElem_map, List.getElem_set]
  rw [List.getD_eq_getElem _ _ (by rwa [List.length_set]), List.getElem_set,
    List.getD_eq_getElem _ _ haxis]
  exact if_congr hsame rfl rfl

/-- A coordinate that is chosen anew on a reordered axis is that of the axis it comes from. -/
theorem restore_set (hindex : index.length = order.length) {j axis : Nat}
    (hj : order[j]? = some axis) (k : Nat) :
    restore order (index.set j k) = (restore order index).set axis k := by
  have hlength : ((restore order index).set axis k).length = order.length := by
    rw [List.length_set, length_restore]
  calc restore order (index.set j k)
    _ = restore order ((reorder (restore order index) order).set j k) := by
        rw [h.reorder_restore hindex]
    _ = restore order (reorder ((restore order index).set axis k) order) := by
        rw [h.reorder_set (by rw [length_restore, h.length_eq]) hj]
    _ = (restore order index).set axis k :=
        h.restore_reorder hlength

/-- Reading reordered strides at a place is reading the strides at the place put back in order. -/
theorem offset_reorder {strides : List Nat} (hstrides : strides.length = shape.length)
    (hindex : index.length = order.length) :
    offset (order.map fun axis => strides.getD axis 0) index =
      offset strides (restore order index) := by
  have hplain : (List.range order.length).map (fun axis => strides.getD axis 0) = strides := by
    rw [h.length_eq, ← hstrides, map_getD_range]
  have hsum (axes : List Nat) :
      offset (axes.map fun axis => strides.getD axis 0)
          (axes.map fun axis => index.getD (order.idxOf axis) 0) =
        (axes.map fun axis => index.getD (order.idxOf axis) 0 * strides.getD axis 0).sum := by
    rw [offset, List.zipWith_map, List.zipWith_self, List.sum_eq_foldr]
  have hperm : order.Perm (List.range order.length) := by
    rw [h.length_eq]
    exact h
  calc offset (order.map fun axis => strides.getD axis 0) index
    _ = (order.map fun axis => index.getD (order.idxOf axis) 0 * strides.getD axis 0).sum := by
        rw [← hsum order, h.map_getD_idxOf hindex]
    _ = ((List.range order.length).map fun axis =>
          index.getD (order.idxOf axis) 0 * strides.getD axis 0).sum :=
        (hperm.map _).sum_eq
    _ = offset strides (restore order index) := by
        rw [← hsum, hplain, restore]

theorem isPlace_restore (hindex : IsPlace (shape.reorder order) index) :
    shape.IsPlace (restore order index) := by
  have hlength : index.length = order.length := by
    rw [List.Forall₂.length_eq hindex, length_reorder]
  refine List.forall₂_iff_get.2 ⟨by simp [restore, h.length_eq], fun axis haxis haxis' => ?_⟩
  have hmem : axis ∈ order := h.mem haxis'
  have hplace : order.idxOf axis < order.length := List.idxOf_lt_length_of_mem hmem
  have hlt := (List.forall₂_iff_get.1 hindex).2 (order.idxOf axis) (hlength ▸ hplace)
    (by rwa [length_reorder])
  simp only [List.get_eq_getElem, reorder, List.getElem_map, List.getElem_idxOf hplace,
    List.getD_eq_getElem _ _ haxis'] at hlt
  simp only [List.get_eq_getElem, restore, List.getElem_map, List.getElem_range]
  rwa [List.getD_eq_getElem _ _ (hlength ▸ hplace)]

/-- Under reordered strides the places of the reordered shape lie among the elements. -/
theorem offset_lt (hindex : IsPlace (shape.reorder order) index) :
    offset (order.map fun axis => (rowMajor shape).getD axis 0) index < shape.product := by
  have hlength : index.length = order.length := by
    rw [List.Forall₂.length_eq hindex, length_reorder]
  rw [h.offset_reorder (length_rowMajor shape) hlength]
  exact (h.isPlace_restore hindex).offset_lt

end IsOrder

/-! ### One order after the other -/

variable {next : List Nat}

/-- Reordering twice is reordering once, by the axes that the second order names in the first. -/
theorem reorder_reorder (hnext : ∀ axis ∈ next, axis < order.length) :
    reorder (shape.reorder order) next = shape.reorder (next.map fun axis => order.getD axis 0) := by
  simp only [reorder, List.map_map]
  refine List.map_congr_left fun axis hmem => ?_
  have haxis := hnext axis hmem
  rw [List.getD_eq_getElem _ _ (by rwa [List.length_map]), List.getElem_map, Function.comp_apply,
    List.getD_eq_getElem _ _ haxis]

namespace IsOrder

variable (h : shape.IsOrder order)
include h

theorem comp (hnext : shape.IsOrder next) :
    shape.IsOrder (next.map fun axis => order.getD axis 0) := by
  have hmap := hnext.map fun axis => order.getD axis 0
  rw [← h.length_eq, map_getD_range] at hmap
  exact hmap.trans h

/-- Putting a place back in order under one order and then under another. -/
theorem restore_restore (hnext : shape.IsOrder next) (hindex : index.length = order.length) :
    restore order (restore next index) =
      restore (next.map fun axis => order.getD axis 0) index := by
  have hlength : next.length = order.length := hnext.length_eq.trans h.length_eq.symm
  have hrestored : (restore next index).length = order.length := by rw [length_restore, hlength]
  have hsource : (restore order (restore next index)).length =
      (next.map fun axis => order.getD axis 0).length := by
    rw [length_restore, List.length_map, hlength]
  calc restore order (restore next index)
    _ = restore (next.map fun axis => order.getD axis 0)
          (reorder (restore order (restore next index)) (next.map fun axis => order.getD axis 0)) :=
        ((h.comp hnext).restore_reorder hsource).symm
    _ = restore (next.map fun axis => order.getD axis 0)
          (reorder (reorder (restore order (restore next index)) order) next) := by
        rw [reorder_reorder fun axis hmem => h.length_eq ▸ hnext.lt hmem]
    _ = restore (next.map fun axis => order.getD axis 0) index := by
        rw [h.reorder_restore hrestored, hnext.reorder_restore (hindex.trans hlength.symm)]

/-- Whether axes are named once each depends on their number alone. -/
theorem reordered (hnext : shape.IsOrder next) : IsOrder (shape.reorder order) next := by
  rwa [IsOrder, length_reorder, h.length_eq]

end IsOrder

/-- The order that undoes another: it names, for each axis, where that one names it. -/
def inverseOrder (order : List Nat) : List Nat :=
  (List.range order.length).map fun axis => order.idxOf axis

theorem IsOrder.map_inverseOrder (h : shape.IsOrder order) :
    (inverseOrder order).map (fun axis => order.getD axis 0) = List.range shape.length := by
  rw [inverseOrder, List.map_map, h.length_eq]
  refine (List.map_congr_left fun axis hmem => ?_).trans (List.map_id _)
  have hplace := List.idxOf_lt_length_of_mem (h.mem (List.mem_range.1 hmem))
  rw [Function.comp_apply, List.getD_eq_getElem _ _ hplace, List.getElem_idxOf, id]

/-- The order of the axes as they are. -/
theorem isOrder_range (shape : Shape) : shape.IsOrder (List.range shape.length) :=
  .refl _

theorem reorder_range (shape : Shape) : shape.reorder (List.range shape.length) = shape :=
  map_getD_range shape

theorem restore_range (hindex : index.length = shape.length) :
    restore (List.range shape.length) index = index := by
  have hlength : index.length = (List.range shape.length).length := by
    rw [List.length_range, hindex]
  conv_rhs => rw [← (isOrder_range shape).restore_reorder hlength, reorder, ← hindex, map_getD_range]
  rw [hindex]

theorem IsOrder.inverse (h : shape.IsOrder order) : shape.IsOrder (inverseOrder order) := by
  refine isOrder_iff.2 ⟨by simp [inverseOrder, h.length_eq], fun place hmem => ?_, ?_⟩
  · obtain ⟨axis, haxis, rfl⟩ := List.mem_map.1 hmem
    rw [List.mem_range, h.length_eq] at haxis
    rw [← h.length_eq]
    exact List.idxOf_lt_length_of_mem (h.mem haxis)
  · refine List.Nodup.of_map (fun axis => order.getD axis 0) ?_
    rw [h.map_inverseOrder]
    exact List.nodup_range

/-! ### Swapping two axes -/

section Swap

variable {rank a b : Nat}

theorem swapOrder_eq_set :
    Tensor.swapOrder rank a b = ((List.range rank).set a b).set b a := by
  refine List.ext_getElem (by simp [Tensor.swapOrder]) fun axis haxis _ => ?_
  simp only [Tensor.swapOrder, List.getElem_set, List.getElem_map, List.getElem_range]
  split_ifs <;> omega

variable (ha : a < rank) (hb : b < rank)
include ha hb

theorem map_swapOrder : (Tensor.swapOrder rank a b).map
    (fun axis => (Tensor.swapOrder rank a b).getD axis 0) = List.range rank := by
  refine List.ext_getElem (by simp [Tensor.swapOrder]) fun axis haxis hrank => ?_
  rw [List.length_range] at hrank
  have hswap (axis : Nat) (haxis : axis < rank) : (Tensor.swapOrder rank a b).getD axis 0 =
      if axis = a then b else if axis = b then a else axis := by
    rw [List.getD_eq_getElem _ _ (by rwa [Tensor.swapOrder, List.length_map, List.length_range])]
    simp only [Tensor.swapOrder, List.getElem_map, List.getElem_range]
  rw [List.getElem_map, List.getElem_range, ← List.getD_eq_getElem _ 0, hswap axis hrank,
    hswap _ (by split_ifs <;> omega)]
  split_ifs <;> omega

theorem mem_swapOrder_lt {axis : Nat} (hmem : axis ∈ Tensor.swapOrder rank a b) : axis < rank := by
  obtain ⟨other, hother, rfl⟩ := List.mem_map.1 hmem
  have hlt := List.mem_range.1 hother
  split_ifs <;> omega

end Swap

theorem isOrder_swapOrder {a b : Nat} (ha : a < shape.length) (hb : b < shape.length) :
    shape.IsOrder (Tensor.swapOrder shape.length a b) := by
  refine isOrder_iff.2 ⟨by simp [Tensor.swapOrder], fun axis => mem_swapOrder_lt ha hb, ?_⟩
  refine List.Nodup.of_map (fun axis => (Tensor.swapOrder shape.length a b).getD axis 0) ?_
  rw [map_swapOrder ha hb]
  exact List.nodup_range

section SwapLast

variable {before : List Nat} {count : Nat}

/-- The order that swaps the last two axes. -/
theorem swapOrder_last (count : Nat) :
    Tensor.swapOrder (count + 2) count (count + 1) = List.range count ++ [count + 1, count] := by
  have hbefore : (List.range count).map (fun axis =>
      if axis = count then count + 1 else if axis = count + 1 then count else axis) =
        List.range count := by
    refine (List.map_congr_left fun axis hmem => ?_).trans (List.map_id _)
    have hlt := List.mem_range.1 hmem
    rw [if_neg (by omega), if_neg (by omega), id]
  rw [Tensor.swapOrder, List.range_succ, List.range_succ, List.map_append, List.map_append, hbefore]
  simp

variable (hcount : before.length = count) (x y : Nat)
include hcount

theorem reorder_swapLast : reorder (before ++ [x, y])
    (Tensor.swapOrder (count + 2) count (count + 1)) = before ++ [y, x] := by
  have hbefore : (List.range count).map (fun axis => (before ++ [x, y]).getD axis 0) = before := by
    conv_rhs => rw [← map_getD_range before, hcount]
    refine List.map_congr_left fun axis hmem => ?_
    rw [List.getD_append _ _ _ _ (hcount ▸ List.mem_range.1 hmem)]
  rw [reorder, swapOrder_last, List.map_append, hbefore]
  simp [← hcount]

theorem restore_swapLast : restore (Tensor.swapOrder (count + 2) count (count + 1))
    (before ++ [x, y]) = before ++ [y, x] := by
  have hlength : (before ++ [y, x]).length = count + 2 := by
    rw [List.length_append, hcount]
    rfl
  have horder : IsOrder (before ++ [y, x]) (Tensor.swapOrder (count + 2) count (count + 1)) := by
    rw [← hlength]
    exact isOrder_swapOrder (by omega) (by omega)
  rw [← reorder_swapLast hcount y x]
  exact horder.restore_reorder horder.length_eq.symm

end SwapLast

end Shape

end ShapeAssert
