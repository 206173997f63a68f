import ShapeAssert.Proofs.Shape.Order

/-! Which shapes are addressable. Counting empty axes as one, the product of all extents bounds every
product over a part of the shape. So it does not matter in which order the axes come, no product on the
way is too large, and a shape stays addressable when its axes are reordered, removed or made smaller. -/

namespace ShapeAssert

namespace Shape

variable {shape : Shape}

theorem checkedSize_perm {other : Shape} (h : other.Perm shape) :
    other.checkedSize = shape.checkedSize := by
  rw [checkedSize_eq, checkedSize_eq, paddedProduct_perm h, product_perm h]

/-- The products that come up when the extents are multiplied from the outermost on. -/
def runningProducts (shape : Shape) : List Nat :=
  shape.scanl (· * ·) 1

theorem foldl_mul_eq_product (extents : List Nat) : extents.foldl (· * ·) 1 = product extents := by
  rw [product_eq_prod, List.prod_eq_foldl]

/-- The whole product is the last to come up. -/
theorem getLast?_runningProducts (shape : Shape) :
    shape.runningProducts.getLast? = some shape.product := by
  rw [runningProducts, List.getLast?_scanl, foldl_mul_eq_product]

/-- No product on the way is too large, also when an empty axis comes after large ones. -/
theorem Addressable.runningProducts_lt (h : shape.Addressable) :
    ∀ step ∈ shape.runningProducts, step < sizeLimit := by
  intro step hstep
  obtain ⟨count, hcount, rfl⟩ := List.mem_iff_getElem.1 hstep
  simp only [runningProducts, List.getElem_scanl, foldl_mul_eq_product]
  exact (h.take count).product_lt

/-- The number of elements is the product of a split. -/
theorem Addressable.checkedSize_split (h : shape.Addressable) {axis : Nat} (haxis : axis < shape.length)
    {split : Split} (hsplit : shape.split axis = .ok split) :
    shape.checkedSize = some (split.outer * split.extent * split.inner) := by
  rw [split_eq_ok haxis] at hsplit
  obtain rfl := Except.ok.inj hsplit
  rw [h.checkedSize, product_eq_split haxis, Nat.mul_assoc]

/-- A shape has a size exactly if the product of its extents other than zero is one, and the size is then
the product of all extents, in whatever order they come. Around any axis of such a shape every product of
the extents on either side is a size at each step, and both with the extent between them multiply to the
size of the shape. The shape keeps a size when its axes are reordered, when an axis is removed, and when
an extent is replaced by one that is at most as large, or at most one. -/
theorem checkedSize_in_every_order (shape : Shape) :
    (∀ count, shape.checkedSize = some count ↔
      product (shape.filter (· ≠ 0)) < sizeLimit ∧ count = shape.product) ∧
    (shape.product = 0 ↔ 0 ∈ shape) ∧ (shape = [] → shape.checkedSize = some 1) ∧
    (∀ other : Shape, other.Perm shape → other.checkedSize = shape.checkedSize) ∧
    (shape.Addressable →
      (∀ axis < shape.length, ∃ split shorter,
        shape.split axis = .ok split ∧ shape[axis]? = some split.extent ∧
        (∀ step ∈ runningProducts (shape.take axis) ++ runningProducts (shape.drop (axis + 1)),
          step < sizeLimit) ∧
        (runningProducts (shape.take axis)).getLast? = some split.outer ∧
        (runningProducts (shape.drop (axis + 1))).getLast? = some split.inner ∧
        shape.checkedSize = some (split.outer * split.extent * split.inner) ∧
        shape.removeAxis axis = .ok shorter ∧ shorter.Addressable ∧
        ∀ extent ≤ max 1 split.extent, ∃ other,
          shape.withExtent axis extent = .ok other ∧ other.Addressable) ∧
      ∀ order : List Nat, order.Perm (List.range shape.length) →
        ∃ reordered, shape.permute order = .ok reordered ∧ reordered.Addressable) := by
  refine ⟨fun count => ?_, product_eq_zero_iff, fun hrank => ?_, fun other => checkedSize_perm,
    fun h => ⟨fun axis haxis => ?_, fun order horder => ?_⟩⟩
  · rw [checkedSize_eq_some, product_filter_ne_zero, eq_comm]
  · rw [hrank]
    rfl
  · have hsplit := split_eq_ok haxis
    refine ⟨_, _, hsplit, ?_, fun step hstep => ?_, getLast?_runningProducts _,
      getLast?_runningProducts _, h.checkedSize_split haxis hsplit, removeAxis_eq_ok haxis,
      h.eraseIdx haxis, fun extent hextent => ⟨_, withExtent_eq_ok haxis extent, h.set haxis hextent⟩⟩
    · rw [List.getElem?_eq_getElem haxis, List.getD_eq_getElem _ _ haxis]
    · rcases List.mem_append.1 hstep with houter | hinner
      · exact (h.take axis).runningProducts_lt step houter
      · exact (h.drop (axis + 1)).runningProducts_lt step hinner
  · have horder : shape.IsOrder order := horder
    exact ⟨_, permute_eq_ok.2 ⟨horder, rfl⟩, horder.addressable_reorder h⟩

/-- An empty axis does not make up for other extents that are too large together. -/
example : checkedSize [4294967296, 0, 4294967296] = none ∧
    checkedSize [0, 4294967296, 4294967295] = some 0 := by
  decide

end Shape

end ShapeAssert
