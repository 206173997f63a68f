import ShapeAssert.Proofs.Tensor.Entries

/-! Reordering the axes of a tensor moves every entry to its reordered place. The visited places are
those of the reordered shape in row-major order, and at each of them the reordered strides lead to the
entry at the place put back in order. Hence reordering twice is reordering once, and an order and its
inverse cancel. -/

namespace ShapeAssert

namespace Tensor

variable {S : Type → Type} [Storage S] {α : Type}

/-! ### Reordering -/

variable {tensor result : Tensor S α} {order next : List Nat}

/-- The entry at a place of the reordered tensor is the one at the place put back in order. -/
theorem makes_permute (h : tensor.WellFormed) (horder : tensor.shape.IsOrder order) :
    Makes (tensor.permute order) (tensor.shape.reorder order) fun index =>
      tensor.element? (Shape.restore order index) := by
  have hread (index : List Nat) (hindex : Shape.IsPlace (tensor.shape.reorder order) index) :=
    h.offset_lt horder hindex
  have haddressable := horder.addressable_reorder h.addressable
  rw [permute_eq h horder]
  refine makes_ofArray haddressable (haddressable.size_gather hread) fun index hindex => ?_
  rw [haddressable.getElem?_gather hread hindex,
    horder.offset_reorder (Shape.length_rowMajor _) (by rw [hindex.length_eq, Shape.length_reorder])]
  exact (element?_of_isPlace (horder.isPlace_restore hindex)).symm

/-- The entries of a reordered tensor that is known by its entries. -/
theorem HasEntries.makes_permute {shape : Shape} {entry : List Nat → Option α}
    (h : tensor.HasEntries shape entry) (horder : shape.IsOrder order) :
    Makes (tensor.permute order) (shape.reorder order) fun index =>
      entry (Shape.restore order index) := by
  obtain rfl := h.shape_eq
  refine (Tensor.makes_permute h.wellFormed horder).congr fun index hindex => ?_
  exact h.element?_eq _ (horder.isPlace_restore hindex)

theorem permute_eq_error (h : tensor.WellFormed) {e : Error} :
    tensor.permute order = .error e ↔ tensor.shape.Refuses order e := by
  rw [← Shape.permute_eq_error]
  cases hshape : tensor.shape.permute order with
  | error e' =>
      have hfails : tensor.permute order = .error e' := by
        rw [permute, hshape]
        rfl
      rw [hfails, Except.error.injEq, Except.error.injEq]
  | ok shape =>
      obtain ⟨result, hresult, -⟩ := makes_permute h (Shape.permute_eq_ok.1 hshape).1
      simp [hresult]

theorem exists_permute_iff (h : tensor.WellFormed) :
    (∃ result, tensor.permute order = .ok result) ↔ tensor.shape.IsOrder order := by
  constructor
  · rintro ⟨result, hresult⟩
    rw [permute] at hresult
    obtain ⟨shape, hshape, -⟩ := bind_eq_ok.1 hresult
    exact (Shape.permute_eq_ok.1 hshape).1
  · intro horder
    obtain ⟨result, hresult, -⟩ := makes_permute h horder
    exact ⟨result, hresult⟩

/-- Reordering a reordered tensor is reordering it by the axes that the second order names in the
first. -/
theorem permute_permute (h : tensor.WellFormed) (horder : tensor.shape.IsOrder order)
    (hnext : tensor.shape.IsOrder next) :
    (tensor.permute order >>= fun result => result.permute next) =
      tensor.permute (next.map fun axis => order.getD axis 0) := by
  have hlength (index : List Nat) (hindex : Shape.IsPlace
      (tensor.shape.reorder (next.map fun axis => order.getD axis 0)) index) :
      index.length = order.length := by
    rw [hindex.length_eq, Shape.length_reorder, List.length_map, hnext.length_eq,
      horder.length_eq]
  have htwice : Makes (tensor.permute order >>= fun result => result.permute next)
      (tensor.shape.reorder (next.map fun axis => order.getD axis 0)) fun index =>
        tensor.element? (Shape.restore (next.map fun axis => order.getD axis 0) index) := by
    refine (makes_permute h horder).bind fun result hresult => ?_
    have hmade := makes_permute hresult.wellFormed (hresult.shape_eq ▸ horder.reordered hnext)
    rw [hresult.shape_eq, Shape.reorder_reorder fun axis hmem => horder.length_eq ▸ hnext.lt hmem]
      at hmade
    refine hmade.congr fun index hindex => ?_
    have hplace : Shape.IsPlace (Shape.reorder (tensor.shape.reorder order) next) index := by
      rwa [Shape.reorder_reorder fun axis hmem => horder.length_eq ▸ hnext.lt hmem]
    rw [hresult.element?_eq _ ((horder.reordered hnext).isPlace_restore hplace),
      horder.restore_restore hnext (hlength index hindex)]
  exact htwice.eq (makes_permute h (horder.comp hnext)) fun _ _ => rfl

/-- The order of the axes as they are moves nothing. -/
theorem permute_range (h : tensor.WellFormed) :
    tensor.permute (List.range tensor.rank) = .ok tensor.renewed := by
  have hmade := makes_permute h (Shape.isOrder_range tensor.shape)
  rw [Shape.reorder_range] at hmade
  exact hmade.eq_renewed h fun index hindex => by rw [Shape.restore_range hindex.length_eq]

theorem permute_inverse (h : tensor.WellFormed) (horder : tensor.shape.IsOrder order) :
    (tensor.permute order >>= fun result => result.permute (Shape.inverseOrder order)) =
      .ok tensor.renewed := by
  rw [permute_permute h horder horder.inverse, horder.map_inverseOrder]
  exact permute_range h

/-! ### Swapping two axes -/

section Transpose

variable {a b : Nat} (ha : a < tensor.rank) (hb : b < tensor.rank)
include ha hb

theorem transpose_eq : tensor.transpose a b = tensor.permute (swapOrder tensor.rank a b) :=
  if_pos ⟨ha, hb⟩

theorem transpose_transpose (h : tensor.WellFormed) :
    (tensor.transpose a b >>= fun result => result.transpose a b) = .ok tensor.renewed := by
  have horder : tensor.shape.IsOrder (swapOrder tensor.rank a b) := Shape.isOrder_swapOrder ha hb
  obtain ⟨result, hresult, hmade⟩ := makes_permute h horder
  have hrank : result.rank = tensor.rank := by
    rw [rank, hmade.shape_eq, Shape.length_reorder, horder.length_eq, rank]
  have htwice := permute_permute h horder horder
  rw [Shape.map_swapOrder ha hb, permute_range h, hresult] at htwice
  rw [transpose_eq ha hb, hresult]
  show result.transpose a b = .ok tensor.renewed
  rw [transpose_eq (hrank ▸ ha) (hrank ▸ hb), hrank]
  exact htwice

end Transpose

/-! ### Every entry -/

/-- A reordering succeeds exactly for the orders that name every axis once and fails by the first axis
that is wrong. An entry moves to the place whose coordinate at each turn is its own on the axis named
there. -/
theorem permute_moves_every_entry (h : tensor.WellFormed) (order : List Nat) :
    ((∃ result, tensor.permute order = .ok result) ↔ order.Perm (List.range tensor.rank)) ∧
    (∀ e, tensor.permute order = .error e ↔ tensor.shape.Refuses order e) ∧
    (∀ result : Tensor S α, tensor.permute order = .ok result →
      result.WellFormed ∧ result.rank = tensor.rank ∧
      (∀ j axis : Nat, order[j]? = some axis → result.shape[j]? = tensor.shape[axis]?) ∧
      ∀ index, result.shape.IsPlace index → ∃ place x, tensor.shape.IsPlace place ∧
        (∀ j axis : Nat, order[j]? = some axis → index[j]? = place[axis]?) ∧
        tensor.element? place = some x ∧ result.element? index = some x) ∧
    (order.Perm (List.range tensor.rank) →
      (∀ next, next.Perm (List.range tensor.rank) →
        (tensor.permute order >>= fun result => result.permute next) =
          tensor.permute (next.map fun axis => order.getD axis 0)) ∧
      (tensor.permute order >>= fun result => result.permute (Shape.inverseOrder order)) =
        .ok tensor.renewed) ∧
    ∀ a b,
      (a < tensor.rank ∧ b < tensor.rank →
        tensor.transpose a b = tensor.permute (((List.range tensor.rank).set a b).set b a) ∧
        (tensor.transpose a b >>= fun result => result.transpose a b) = .ok tensor.renewed) ∧
      (¬(a < tensor.rank ∧ b < tensor.rank) →
        tensor.transpose a b = .error (.invalidAxis (max a b) tensor.rank)) := by
  refine ⟨exists_permute_iff h, fun e => permute_eq_error h, fun result hresult => ?_,
    fun horder => ⟨fun next hnext => permute_permute h horder hnext, permute_inverse h horder⟩,
    fun a b => ⟨fun ⟨ha, hb⟩ => ⟨?_, transpose_transpose ha hb h⟩, fun hout => if_neg hout⟩⟩
  · have horder : tensor.shape.IsOrder order := (exists_permute_iff h).1 ⟨result, hresult⟩
    have hmade := (makes_permute h horder).tabulates hresult
    have hlt {j axis : Nat} (hj : order[j]? = some axis) : axis < tensor.shape.length :=
      horder.lt (List.mem_of_getElem? hj)
    have hshape := hmade.shape_eq
    refine ⟨hmade.wellFormed, ?_, fun j axis hj => ?_, fun index hindex => ?_⟩
    · rw [rank, hshape, Shape.reorder, List.length_map, horder.length_eq, rank]
    · rw [hshape, Shape.getElem?_reorder hj (hlt hj)]
    · rw [hshape] at hindex
      have hlength : index.length = order.length := by
        rw [hindex.length_eq, Shape.reorder, List.length_map]
      obtain ⟨x, hx, hentry⟩ := hmade.exists_entry hindex
      refine ⟨Shape.restore order index, x, horder.isPlace_restore hindex, fun j axis hj => ?_, hx,
        hentry⟩
      have haxis : axis < (Shape.restore order index).length := by
        rw [Shape.length_restore, horder.length_eq]
        exact hlt hj
      rw [← Shape.getElem?_reorder hj haxis, horder.reorder_restore hlength]
  · rw [transpose_eq ha hb, Shape.swapOrder_eq_set]

/-- Three axes of different extents, an order that is not its own inverse, and orders that name an axis
twice and an axis that does not exist. -/
theorem permute_moves_entries_of_three_axes :
    let tensor : Tensor HeapStorage Nat := { storage := ⟨Array.range 24⟩, shape := [2, 3, 4] }
    tensor.WellFormed ∧
      (tensor.permute [2, 0, 1] >>= fun result => result.permute [1, 2, 0]) = .ok tensor.renewed ∧
      tensor.permute [1, 1, 3] = .error (.incompatibleShapes [2, 3, 4] [1, 1, 3]) ∧
      tensor.permute [1, 3, 1] = .error (.invalidAxis 3 3) := by
  intro tensor
  have hwell : tensor.WellFormed := by decide
  obtain ⟨-, -, -, hcompose, -⟩ := permute_moves_every_entry hwell [2, 0, 1]
  obtain ⟨-, hrepeated, -⟩ := permute_moves_every_entry hwell [1, 1, 3]
  obtain ⟨-, hmissing, -⟩ := permute_moves_every_entry hwell [1, 3, 1]
  refine ⟨hwell, (hcompose (by decide)).2, (hrepeated _).2 ?_, (hmissing _).2 ?_⟩
  · exact @Shape.Refuses.repeated _ _ [1] [3] 1 rfl rfl (by decide) (by decide) (by decide)
  · exact @Shape.Refuses.missing _ _ [1] [1] 3 rfl rfl (by decide) (by decide) (by decide)

end Tensor

end ShapeAssert
