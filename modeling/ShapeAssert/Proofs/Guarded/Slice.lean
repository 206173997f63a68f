import ShapeAssert.Proofs.Guarded.Loop

/-! Cutting out of an axis and joining along it, with the bounds of every span computed in sizes. -/

namespace ShapeAssert.Guarded

variable {S : Type → Type} [Storage S] {α : Type}

/-- Appends the kept places of one row. -/
def appendKept (data : Array α) (split : Shape.Split) (start stop row : Nat) (joined : Array α) :
    Option (Array α) := do
  let base ← mul (← mul row split.extent) split.inner
  let first ← add base (← mul start split.inner)
  let last ← add base (← mul stop split.inner)
  return joined ++ (← slice data ⟨first, last⟩)

/-- Copies the kept places row by row, with room for all of them set aside in advance. -/
def copyKept (data : Array α) (split : Shape.Split) (start length stop : Nat) :
    Option (Array α) := do
  let _ ← mul (← mul split.outer length) split.inner
  loop split.outer #[] fun row joined => appendKept data split start stop row joined

def narrow (tensor : Tensor S α) (axis start length : Nat) : Run (Tensor S α) := do
  let split ← split tensor.shape axis
  match (add start length).filter (· ≤ split.extent) with
  | none => throw (.invalidSlice start (min (start + length) maxSize) split.extent)
  | some stop => do
      let data ← Run.step (copyKept tensor.data split start length stop)
      let shape ← Run.safe (tensor.shape.withExtent axis length)
      Run.safe (Tensor.ofArray data shape)

/-- Appends the elements that a tensor has in one row. -/
def appendChunk (axis inner row : Nat) (joined : Array α) (tensor : Tensor S α) :
    Option (Array α) := do
  let chunk ← mul (← tensor.shape[axis]?) inner
  let first ← mul row chunk
  let last ← mul (← add row 1) chunk
  return joined ++ (← slice tensor.data ⟨first, last⟩)

/-- Joins the tensors row by row. -/
def joinChunks (tensors : List (Tensor S α)) (axis : Nat) (split : Shape.Split) :
    Option (Array α) :=
  loop split.outer #[] fun row joined => tensors.foldlM (appendChunk axis split.inner row) joined

def concat (tensors : List (Tensor S α)) (axis : Nat) : Run (Tensor S α) :=
  match tensors with
  | [] => throw (.incompatibleShapes [] [])
  | first :: _ => do
      let split ← split first.shape axis
      let total ← Run.safe (Tensor.joinedExtent axis first.shape (tensors.map (·.shape)))
      let shape ← Run.safe (first.shape.withExtent axis total)
      let _ ← Run.safe shape.elementCount
      let data ← Run.step (joinChunks tensors axis split)
      Run.safe (Tensor.ofArray data shape)

/-- A loop that appends rows. -/
theorem loop_append {count : Nat} {row : Nat → Array α} {body : Nat → Array α → Option (Array α)}
    (hbody : ∀ i < count, ∀ joined, body i joined = some (joined ++ row i)) :
    loop count #[] body = some (Tensor.joinRows count row) :=
  loop_eq_some (fun _ => True) trivial (fun _ _ _ => trivial) fun i hi joined _ => hbody i hi joined

/-- Items that each append something. -/
theorem foldlM_append {β : Type} {items : List β} {piece : β → Array α}
    {append : Array α → β → Option (Array α)}
    (happend : ∀ item ∈ items, ∀ joined, append joined item = some (joined ++ piece item))
    (joined : Array α) :
    items.foldlM append joined =
      some (joined ++ items.foldl (fun joined item => joined ++ piece item) #[]) := by
  have hfold : items.foldlM append joined =
      some (items.foldl (fun joined item => joined ++ piece item) joined) := by
    induction items generalizing joined with
    | nil => rfl
    | cons item items ih =>
        rw [List.foldlM_cons, happend item List.mem_cons_self, List.foldl_cons]
        exact ih (fun other hmem => happend other (List.mem_cons_of_mem _ hmem)) _
  have hjoined : items.foldl (fun joined item => joined ++ piece item) (joined ++ #[]) =
      joined ++ items.foldl (fun joined item => joined ++ piece item) #[] :=
    List.foldl_hom (joined ++ ·) fun out item => Array.append_assoc
  rw [hfold, ← hjoined, Array.append_empty]

theorem joinRows_eq_empty {count : Nat} {row : Nat → Array α} (h : ∀ i < count, (row i).size = 0) :
    Tensor.joinRows count row = #[] := by
  refine Array.eq_empty_of_size_eq_zero ?_
  rw [Tensor.size_joinRows h, Nat.mul_zero]

section Narrow

variable {data : Array α} {split : Shape.Split} {start length : Nat}
  (hsplit : Shape.Addressable [split.outer, split.extent, split.inner])
  (hdata : data.size = split.outer * (split.extent * split.inner))
  (hstop : start + length ≤ split.extent)
include hsplit hdata hstop

theorem appendKept_eq {row : Nat} (hrow : row < split.outer) (joined : Array α) :
    appendKept data split start (start + length) row joined =
      some (joined ++ Tensor.copySpan data (split.span start (start + length) row)) := by
  have hend : row * split.extent * split.inner + (start + length) * split.inner ≤
      split.outer * (split.extent * split.inner) :=
    @Tensor.span_stop_le split start _ row hrow hstop
  have hbounds : row * split.extent * split.inner + start * split.inner ≤
      row * split.extent * split.inner + (start + length) * split.inner :=
    Nat.add_le_add_left (Nat.mul_le_mul_right _ (Nat.le_add_right ..)) _
  have hsize := grid_size_lt hsplit
  unfold appendKept
  rw [mul_eq_some (grid_first_lt hsplit hrow.le le_rfl)]
  simp only [Option.bind_eq_bind, Option.bind_some]
  rw [mul_eq_some (by omega), Option.bind_some, mul_eq_some (grid_last_lt hsplit (by omega) le_rfl),
    Option.bind_some, add_eq_some (by omega), Option.bind_some,
    mul_eq_some (grid_last_lt hsplit hstop le_rfl), Option.bind_some, add_eq_some (by omega),
    Option.bind_some, slice_eq_some hbounds (hend.trans hdata.ge)]
  rfl

theorem copyKept_eq : copyKept data split start length (start + length) =
    some (Tensor.narrowed data split start length) := by
  unfold copyKept
  rw [mul_eq_some (grid_first_lt hsplit le_rfl (by omega))]
  simp only [Option.bind_eq_bind, Option.bind_some]
  rw [mul_eq_some (grid_mul_lt hsplit (by omega) (by omega) (by omega)), Option.bind_some,
    loop_append fun row hrow joined => appendKept_eq hsplit hdata hstop hrow joined]
  unfold Tensor.narrowed
  split
  · next hzero =>
      -- with no places to keep all rows are empty, and there may be very many of them
      rw [joinRows_eq_empty fun row hrow => ?_]
      rw [Tensor.size_copySpan_span hstop hdata hrow, hzero]
  · rfl

end Narrow

theorem narrow_eq {tensor : Tensor S α} (h : tensor.WellFormed) (axis start length : Nat) :
    narrow tensor axis start length = Run.safe (tensor.narrow axis start length) := by
  unfold narrow Tensor.narrow
  rw [split_eq h.addressable]
  refine Run.safe_bind fun split hsplit => ?_
  obtain ⟨haxis, hgrid, hproduct⟩ := addressable_split h.addressable hsplit
  have hextent := grid_middle_lt hgrid
  dsimp only
  by_cases hstop : start + length ≤ split.extent
  · rw [add_eq_some (by omega), Option.filter_some, if_pos (by simpa using hstop),
      if_neg (Nat.not_lt.2 hstop)]
    dsimp only
    rw [copyKept_eq hgrid (h.size_data.trans hproduct) hstop, Run.step_some_bind]
    exact Run.safe_bind fun shape _ => rfl
  · -- the end lies beyond the axis, or is not even a size
    have hnone : (add start length).filter (· ≤ split.extent) = none := by
      unfold add
      split
      · rw [Option.filter_some, if_neg (by simpa using hstop)]
      · rfl
    rw [hnone, if_pos (Nat.not_le.1 hstop)]
    rfl

section Concat

variable {tensors : List (Tensor S α)} {axis : Nat} {split : Shape.Split}
  (h : Tensor.Joinable tensors axis split)
include h

theorem appendChunk_eq {row : Nat} (hrow : row < split.outer) {tensor : Tensor S α}
    (hmem : tensor ∈ tensors) (joined : Array α) :
    appendChunk axis split.inner row joined tensor =
      some (joined ++ Tensor.piece axis split.inner row tensor) := by
  have haxis := h.axis_lt tensor hmem
  have hend := h.chunk_stop_le hrow hmem
  have hgrid : Shape.Addressable [split.outer, tensor.shape.getD axis 0, split.inner] := by
    rw [h.outer tensor hmem, h.inner tensor hmem]
    exact (addressable_split (h.wellFormed tensor hmem).addressable (Shape.split_eq_ok haxis)).2.1
  have hdata := (h.wellFormed tensor hmem).size_data_lt
  have hbounds : row * (tensor.shape.getD axis 0 * split.inner) ≤
      (row + 1) * (tensor.shape.getD axis 0 * split.inner) :=
    Nat.mul_le_mul_right _ (Nat.le_succ row)
  have hnext : row + 1 < sizeLimit := Nat.lt_of_le_of_lt hrow (grid_outer_lt hgrid)
  unfold appendChunk
  rw [List.getElem?_eq_getElem haxis, ← List.getD_eq_getElem _ 0 haxis]
  simp only [Option.bind_eq_bind, Option.bind_some]
  rw [mul_eq_some (grid_last_lt hgrid le_rfl le_rfl), Option.bind_some, mul_eq_some (by omega),
    Option.bind_some, add_eq_some hnext, Option.bind_some, mul_eq_some (by omega),
    Option.bind_some, slice_eq_some hbounds hend]
  rfl

theorem joinChunks_eq {total : Nat}
    (htotal : total = (tensors.map fun tensor => tensor.shape.getD axis 0).sum) :
    joinChunks tensors axis split = some (Tensor.concatenated tensors axis total split) := by
  have hrow (row : Nat) (hrow : row < split.outer) (joined : Array α) :
      tensors.foldlM (appendChunk axis split.inner row) joined = some (joined ++
        tensors.foldl (fun joined tensor => joined ++ Tensor.piece axis split.inner row tensor) #[]) := by
    rw [foldlM_append fun tensor hmem joined => appendChunk_eq h hrow hmem joined]
  unfold joinChunks Tensor.concatenated
  rw [loop_append hrow]
  split
  · next hzero =>
      rw [joinRows_eq_empty fun row hrow => ?_]
      rw [h.size_row htotal hrow, hzero]
  · rfl

end Concat

theorem concat_eq {tensors : List (Tensor S α)} (h : ∀ tensor ∈ tensors, tensor.WellFormed)
    (axis : Nat) : concat tensors axis = Run.safe (Tensor.concat tensors axis) := by
  cases tensors with
  | nil => rfl
  | cons first rest =>
      have hfirst := h first List.mem_cons_self
      unfold concat Tensor.concat
      dsimp only
      rw [split_eq hfirst.addressable]
      refine Run.safe_bind fun split hsplit => ?_
      obtain ⟨haxis, -, -⟩ := addressable_split hfirst.addressable hsplit
      obtain rfl := Except.ok.inj ((Shape.split_eq_ok haxis).symm.trans hsplit)
      refine Run.safe_bind fun total htotal => Run.safe_bind fun shape _ => Run.safe_bind fun _ _ => ?_
      have hsum := (Tensor.joinedExtent_eq_ok.1 htotal).2.1
      rw [List.map_map] at hsum
      -- all tensors are split alike, so the rows of the first are rows of every one
      rw [joinChunks_eq (Tensor.Joinable.of_joinedExtent haxis h htotal) hsum]
      rfl

end ShapeAssert.Guarded
