import ShapeAssert.Proofs.Tensor.Entries

/-! Cutting and joining by place. A range that is cut out of an axis has the entries of the tensor with
the coordinate on that axis moved; tensors that are joined keep their entries, each behind the
extents of those before it. So cutting the parts out of what was joined gives them back, and joining
what was cut out of a tensor gives the tensor back. -/

namespace ShapeAssert

namespace Tensor

variable {S : Type → Type} [Storage S] {α : Type}

/-! ### Spans and rows -/

theorem getElem?_copySpan {data : Array α} {span : Span} (h : span.stop ≤ data.size) {i : Nat}
    (hi : i < span.stop - span.start) : (copySpan data span)[i]? = data[span.start + i]? := by
  rw [copySpan, Array.getElem?_extract, Nat.min_eq_left h, if_pos hi]

/-- Rows of one width are found by counting them. -/
theorem getElem?_joinRows {count width : Nat} {row : Nat → Array α}
    (hrow : ∀ i < count, (row i).size = width) {i j : Nat} (hi : i < count) (hj : j < width) :
    (joinRows count row)[i * width + j]? = (row i)[j]? := by
  induction count with
  | zero => omega
  | succ count ih =>
      have hbefore : ∀ i < count, (row i).size = width := fun i hi => hrow i (Nat.lt_succ_of_lt hi)
      have hsize : (joinRows count row).size = count * width := size_joinRows hbefore
      have hjoin : joinRows (count + 1) row = joinRows count row ++ row count := by
        rw [joinRows, Nat.fold_succ]
        rfl
      rw [hjoin]
      by_cases hlast : i < count
      · have hplace : i * width + j < (joinRows count row).size := by
          rw [hsize]
          exact Shape.block_lt hlast hj
        rw [Array.getElem?_append_left hplace, ih hbefore hlast]
      · obtain rfl : i = count := by omega
        rw [Array.getElem?_append_right (by omega), hsize, Nat.add_sub_cancel_left]

/-! ### Cutting -/

theorem getElem?_narrowed {data : Array α} {split : Shape.Split} {start length : Nat}
    (hstop : start + length ≤ split.extent)
    (hdata : data.size = split.outer * (split.extent * split.inner)) {row k i : Nat}
    (hrow : row < split.outer) (hk : k < length) (hi : i < split.inner) :
    (narrowed data split start length)[
        ({ split with extent := length } : Shape.Split).offset row k i]? =
      data[split.offset row (start + k) i]? := by
  have hinRow : k * split.inner + i < length * split.inner :=
    Shape.block_lt hk hi
  rw [Shape.Split.offset_eq, narrowed, if_neg (by omega),
    getElem?_joinRows (fun row hrow => size_copySpan_span hstop hdata hrow) hrow hinRow,
    getElem?_copySpan (hdata ▸ span_stop_le split hrow hstop)]
  · refine congrArg (data[·]?) ?_
    show row * split.extent * split.inner + start * split.inner + (k * split.inner + i) = _
    rw [Shape.Split.offset_eq, Nat.add_mul, Nat.mul_assoc, Nat.add_assoc, Nat.add_assoc]
  · show k * split.inner + i < row * split.extent * split.inner + (start + length) * split.inner -
      (row * split.extent * split.inner + start * split.inner)
    rwa [Nat.add_sub_add_left, ← Nat.sub_mul, Nat.add_sub_cancel_left]

variable {tensor : Tensor S α} {axis : Nat}

/-- The entries of a range are those of the axis from its start on. -/
theorem makes_narrow (h : tensor.WellFormed) (haxis : axis < tensor.rank) {start length : Nat}
    (hstop : start + length ≤ tensor.shape.getD axis 0) :
    Makes (tensor.narrow axis start length) (tensor.shape.set axis length) fun index =>
      tensor.element? (index.modify axis (start + ·)) := by
  rw [narrow_eq tensor haxis, if_neg (Nat.not_lt.2 hstop)]
  refine makes_ofArray (h.addressable.set haxis (by omega)) ?_ fun index hindex => ?_
  · rw [size_narrowed hstop (h.size_data.trans (Shape.product_eq_split haxis)),
      Shape.product_set haxis]
  · have hdata := h.size_data
    obtain ⟨outer, extent, inner, hshape, rfl⟩ := Shape.exists_around haxis
    rw [hshape, Shape.set_around] at hindex
    obtain ⟨before, k, after, rfl, hbefore, hk, hafter⟩ := Shape.isPlace_axis_iff.1 hindex
    rw [hshape, Shape.getD_around] at hstop
    have hplace : tensor.shape.IsPlace (before ++ (start + k) :: after) := by
      rw [hshape]
      exact hbefore.append (.cons (by omega) hafter)
    rw [hshape, Shape.product_append, Shape.product_cons] at hdata
    rw [hbefore.modify_append, element?_of_isPlace hplace, hshape, Shape.split_around,
      Shape.set_around, Shape.position_axis hbefore, Shape.position_axis hbefore]
    exact getElem?_narrowed hstop hdata hbefore.position_lt hk hafter.position_lt

/-! ### Joining -/

/-- What is appended later comes after what is there. -/
theorem getElem?_foldl_append_of_lt {β : Type} (f : β → Array α) (items : List β) {start : Array α}
    {number : Nat} (h : number < start.size) :
    (items.foldl (fun joined item => joined ++ f item) start)[number]? = start[number]? := by
  induction items generalizing start with
  | nil => rfl
  | cons item items ih =>
      rw [List.foldl_cons, ih (by rw [Array.size_append]; omega), Array.getElem?_append_left h]

/-- How far tensors reach along an axis, one behind the other. -/
def along (axis : Nat) (tensors : List (Tensor S α)) : Nat :=
  (tensors.map fun tensor => tensor.shape.getD axis 0).sum

omit [Storage S] in
@[simp] theorem along_nil (axis : Nat) : along axis ([] : List (Tensor S α)) = 0 := rfl

omit [Storage S] in
@[simp] theorem along_cons (axis : Nat) (tensor : Tensor S α) (rest : List (Tensor S α)) :
    along axis (tensor :: rest) = tensor.shape.getD axis 0 + along axis rest :=
  List.sum_cons

omit [Storage S] in
theorem along_append (axis : Nat) (tensors rest : List (Tensor S α)) :
    along axis (tensors ++ rest) = along axis tensors + along axis rest := by
  rw [along, List.map_append, List.sum_append]
  rfl

/-- The entry of tensors that stand one behind the other along an axis: that of the first one as far as
it reaches, then those of the others, counted from its end. -/
def joined? (axis : Nat) : List (Tensor S α) → List Nat → Option α
  | [], _ => none
  | tensor :: rest, index =>
      if index.getD axis 0 < tensor.shape.getD axis 0 then tensor.element? index
      else joined? axis rest (index.modify axis (· - tensor.shape.getD axis 0))

/-- Well-formed tensors that differ at most on the axis between an outer and an inner part. -/
structure Aligned (outer inner : Shape) (tensors : List (Tensor S α)) : Prop where
  wellFormed : ∀ tensor ∈ tensors, tensor.WellFormed
  shape_eq : ∀ tensor ∈ tensors, tensor.shape = outer ++ tensor.shape.getD outer.length 0 :: inner

section Joined

variable {outer inner : Shape} {before after : List Nat} {tensors rest : List (Tensor S α)}

theorem joined?_cons (hbefore : outer.IsPlace before) (k : Nat) :
    joined? outer.length (tensor :: rest) (before ++ k :: after) =
      if k < tensor.shape.getD outer.length 0 then tensor.element? (before ++ k :: after)
      else joined? outer.length rest (before ++ (k - tensor.shape.getD outer.length 0) :: after) := by
  rw [joined?, hbefore.getD_append, hbefore.modify_append]

/-- Behind some tensors stands the next one. -/
theorem joined?_append (hbefore : outer.IsPlace before) {k : Nat}
    (hk : k < tensor.shape.getD outer.length 0) :
    joined? outer.length (tensors ++ tensor :: rest)
        (before ++ (along outer.length tensors + k) :: after) =
      tensor.element? (before ++ k :: after) := by
  induction tensors with
  | nil => rw [List.nil_append, along_nil, Nat.zero_add, joined?_cons hbefore, if_pos hk]
  | cons first tensors ih =>
      have hbehind : ¬along outer.length (first :: tensors) + k < first.shape.getD outer.length 0 := by
        rw [along_cons]
        omega
      rw [List.cons_append, joined?_cons hbefore, if_neg hbehind, along_cons, Nat.add_assoc,
        Nat.add_sub_cancel_left, ih]

namespace Aligned

theorem tail (h : Aligned outer inner (tensor :: rest)) : Aligned outer inner rest :=
  ⟨fun other hmem => h.wellFormed other (List.mem_cons_of_mem _ hmem),
    fun other hmem => h.shape_eq other (List.mem_cons_of_mem _ hmem)⟩

theorem joinable (h : Aligned outer inner tensors) (extent : Nat) :
    Joinable tensors outer.length (Shape.around outer extent inner) where
  wellFormed := h.wellFormed
  axis_lt tensor hmem := by
    rw [h.shape_eq tensor hmem]
    exact Shape.lt_length_around ..
  outer tensor hmem := by
    rw [h.shape_eq tensor hmem]
    simp
  inner tensor hmem := by
    rw [h.shape_eq tensor hmem]
    simp

variable (hbefore : outer.IsPlace before) (hafter : inner.IsPlace after)
include hbefore hafter

theorem getElem?_piece (h : Aligned outer inner tensors) (hmem : tensor ∈ tensors) {k : Nat}
    (hk : k < tensor.shape.getD outer.length 0) :
    (piece outer.length inner.product (outer.position before) tensor)[
        k * inner.product + inner.position after]? = tensor.element? (before ++ k :: after) := by
  have hshape := h.shape_eq tensor hmem
  have hplace : tensor.shape.IsPlace (before ++ k :: after) := by
    rw [hshape]
    exact hbefore.append (.cons hk hafter)
  have hinRow : k * inner.product + inner.position after <
      tensor.shape.getD outer.length 0 * inner.product :=
    Shape.block_lt hk hafter.position_lt
  rw [piece, getElem?_copySpan ((h.joinable 0).chunk_stop_le hbefore.position_lt hmem),
    element?_of_isPlace hplace]
  · rw [hshape, Shape.position_axis hbefore, Shape.Split.offset_eq, ← hshape]
    rfl
  · rwa [Span.chunk, Nat.succ_mul, Nat.add_sub_cancel_left]

/-- The pieces of a row stand one behind the other. -/
theorem getElem?_row (h : Aligned outer inner tensors) {k : Nat} (hk : k < along outer.length tensors)
    (start : Array α) :
    (tensors.foldl (fun joined tensor =>
        joined ++ piece outer.length inner.product (outer.position before) tensor) start)[
      start.size + (k * inner.product + inner.position after)]? =
      joined? outer.length tensors (before ++ k :: after) := by
  induction tensors generalizing start k with
  | nil => exact absurd hk (Nat.not_lt_zero k)
  | cons tensor rest ih =>
      have hsize := (h.joinable 0).size_piece hbefore.position_lt List.mem_cons_self
      dsimp only at hsize
      rw [List.foldl_cons, joined?_cons hbefore]
      by_cases hfirst : k < tensor.shape.getD outer.length 0
      · have hinRow : k * inner.product + inner.position after <
            tensor.shape.getD outer.length 0 * inner.product :=
          Shape.block_lt hfirst hafter.position_lt
        rw [if_pos hfirst, getElem?_foldl_append_of_lt _ _ (by rw [Array.size_append]; omega),
          Array.getElem?_append_right (by omega), Nat.add_sub_cancel_left]
        exact h.getElem?_piece hbefore hafter List.mem_cons_self hfirst
      · -- beyond the first tensor both the coordinate and the row are counted from its end
        obtain ⟨k, rfl⟩ := Nat.exists_eq_add_of_le (Nat.not_lt.1 hfirst)
        rw [along_cons] at hk
        rw [if_neg hfirst, Nat.add_sub_cancel_left, ← ih h.tail (by omega) (start ++ _),
          Array.size_append, hsize, Nat.add_mul, Nat.add_assoc, Nat.add_assoc]

/-- All rows have the same width, so the rows before one are passed over together. -/
theorem getElem?_concatenated (h : Aligned outer inner tensors) {k : Nat}
    (hk : k < along outer.length tensors) (extent : Nat) :
    (concatenated tensors outer.length (along outer.length tensors)
        (Shape.around outer extent inner))[
      (Shape.around outer (along outer.length tensors) inner).offset (outer.position before) k
        (inner.position after)]? = joined? outer.length tensors (before ++ k :: after) := by
  have hinRow : k * inner.product + inner.position after <
      along outer.length tensors * inner.product :=
    Shape.block_lt hk hafter.position_lt
  have hwidth (row : Nat) (hrow : row < outer.product) :
      (tensors.foldl (fun joined tensor => joined ++ piece outer.length inner.product row tensor)
        #[]).size = along outer.length tensors * inner.product :=
    (h.joinable extent).size_row rfl hrow
  rw [Shape.Split.offset_eq, concatenated, if_neg (by dsimp only; omega),
    getElem?_joinRows hwidth hbefore.position_lt hinRow, ← h.getElem?_row hbefore hafter hk #[],
    Array.size_empty, Nat.zero_add]

end Aligned

/-- Joined tensors keep their entries. -/
theorem makes_concat {first : Tensor S α} (h : Aligned outer inner (first :: rest))
    (hshape : Shape.Addressable (outer ++ along outer.length (first :: rest) :: inner)) :
    Makes (concat (first :: rest) outer.length) (outer ++ along outer.length (first :: rest) :: inner)
      (joined? outer.length (first :: rest)) := by
  obtain ⟨extent, hfirst⟩ : ∃ extent, first.shape = outer ++ extent :: inner :=
    ⟨_, h.shape_eq first List.mem_cons_self⟩
  have hextent : joinedExtent outer.length first.shape ((first :: rest).map (·.shape)) =
      .ok (along outer.length (first :: rest)) := by
    rw [joinedExtent_eq_ok, List.forall_mem_map, List.map_map]
    refine ⟨fun tensor hmem => ?_, rfl, hshape.extent_lt⟩
    rw [agreeExcept_iff, hfirst, Shape.set_around, h.shape_eq tensor hmem, Shape.set_around]
  -- the shape of the first is that of the whole but for the axis
  rw [concat_cons_eq first rest ((h.joinable extent).axis_lt first List.mem_cons_self), hextent]
  dsimp only [bind, Except.bind]
  rw [hfirst, Shape.set_around, Shape.split_around, hshape.elementCount]
  refine makes_ofArray hshape ?_ fun index hindex => ?_
  · refine ((h.joinable extent).size_concatenated rfl).trans ?_
    rw [Shape.product_append, Shape.product_cons]
    rfl
  · obtain ⟨before, k, after, rfl, hbefore, hk, hafter⟩ := Shape.isPlace_axis_iff.1 hindex
    rw [Shape.position_axis hbefore]
    exact h.getElem?_concatenated hbefore hafter hk extent

/-- Where a tensor stands in what it was joined to, cutting gives it back. -/
theorem narrow_joined {result : Tensor S α} (h : Aligned outer inner (tensors ++ tensor :: rest))
    (hresult : result.Tabulates
      (outer ++ along outer.length (tensors ++ tensor :: rest) :: inner)
      (joined? outer.length (tensors ++ tensor :: rest))) :
    result.narrow outer.length (along outer.length tensors) (tensor.shape.getD outer.length 0) =
      .ok tensor.renewed := by
  have hmem : tensor ∈ tensors ++ tensor :: rest := List.mem_append_right _ List.mem_cons_self
  have hshape := h.shape_eq tensor hmem
  have haxis : outer.length < result.rank := by
    rw [rank, hresult.shape_eq]
    exact Shape.lt_length_around ..
  have hstop : along outer.length tensors + tensor.shape.getD outer.length 0 ≤
      result.shape.getD outer.length 0 := by
    rw [hresult.shape_eq, Shape.getD_around, along_append, along_cons]
    omega
  have hmade := makes_narrow hresult.wellFormed haxis hstop
  rw [hresult.shape_eq, Shape.set_around, ← hshape] at hmade
  refine hmade.eq_renewed (h.wellFormed tensor hmem) fun index hindex => ?_
  rw [hshape] at hindex
  obtain ⟨before, k, after, rfl, hbefore, hk, hafter⟩ := Shape.isPlace_axis_iff.1 hindex
  have hplace : Shape.IsPlace (outer ++ along outer.length (tensors ++ tensor :: rest) :: inner)
      (before ++ (along outer.length tensors + k) :: after) := by
    refine hbefore.append (.cons ?_ hafter)
    rw [along_append, along_cons]
    omega
  rw [hbefore.modify_append, hresult.element?_eq _ hplace, joined?_append hbefore hk]

end Joined

/-! ### What can be joined -/

theorem agreeExcept_iff_forall {axis : Nat} {first shape : Shape} :
    agreeExcept axis first shape = true ↔
      shape.length = first.length ∧ ∀ other, other ≠ axis → shape[other]? = first[other]? := by
  rw [agreeExcept_iff]
  constructor
  · intro h
    have hlength : first.length = shape.length := by simpa using congrArg List.length h
    refine ⟨hlength.symm, fun other hother => ?_⟩
    have hsame : (first.set axis 0)[other]? = (shape.set axis 0)[other]? := by rw [h]
    rwa [List.getElem?_set_ne hother.symm, List.getElem?_set_ne hother.symm, eq_comm] at hsame
  · intro ⟨hlength, hothers⟩
    refine List.ext_getElem? fun other => ?_
    rw [List.getElem?_set, List.getElem?_set, hlength]
    by_cases haxis : axis = other
    · rw [if_pos haxis, if_pos haxis]
    · rw [if_neg haxis, if_neg haxis, hothers other (Ne.symm haxis)]

/-- Tensors that can be joined along an axis to the first one: on every other axis they reach as far as
it, and together they are not too large. -/
structure Compatible (first : Tensor S α) (rest : List (Tensor S α)) (axis : Nat) : Prop where
  axis_lt : axis < first.rank
  rank_eq : ∀ tensor ∈ rest, tensor.rank = first.rank
  extent_eq : ∀ tensor ∈ rest, ∀ other, other ≠ axis → tensor.shape[other]? = first.shape[other]?
  along_lt : along axis (first :: rest) < sizeLimit
  addressable : Shape.Addressable (first.shape.set axis (along axis (first :: rest)))

section Compatible

variable {first : Tensor S α} {rest : List (Tensor S α)}

omit [Storage S] in
theorem Compatible.agreeExcept (h : Compatible first rest axis) :
    ∀ tensor ∈ first :: rest, agreeExcept axis first.shape tensor.shape = true := by
  refine List.forall_mem_cons.2 ⟨agreeExcept_iff.2 rfl, fun tensor hmem => ?_⟩
  exact agreeExcept_iff_forall.2 ⟨h.rank_eq tensor hmem, h.extent_eq tensor hmem⟩

omit [Storage S] in
/-- Tensors that can be joined differ on the axis alone. -/
theorem Compatible.shape_eq (h : Compatible first rest axis) (hmem : tensor ∈ first :: rest) :
    tensor.shape = first.shape.set axis (tensor.shape.getD axis 0) := by
  have hset : first.shape.set axis 0 = tensor.shape.set axis 0 :=
    agreeExcept_iff.1 (h.agreeExcept tensor hmem)
  have haxis : axis < tensor.shape.length := by
    have hlength := congrArg List.length hset
    rw [List.length_set, List.length_set] at hlength
    rw [← hlength]
    exact h.axis_lt
  calc tensor.shape
    _ = tensor.shape.set axis (tensor.shape.getD axis 0) := by
        rw [List.getD_eq_getElem _ _ haxis, List.set_getElem_self]
    _ = (first.shape.set axis 0).set axis (tensor.shape.getD axis 0) := by
        rw [hset, List.set_set]
    _ = first.shape.set axis (tensor.shape.getD axis 0) :=
        List.set_set ..

theorem Compatible.exists_aligned (h : Compatible first rest axis)
    (hwell : ∀ tensor ∈ first :: rest, tensor.WellFormed) :
    ∃ outer extent inner, first.shape = outer ++ extent :: inner ∧ outer.length = axis ∧
      Aligned outer inner (first :: rest) := by
  obtain ⟨outer, extent, inner, hshape, rfl⟩ := Shape.exists_around h.axis_lt
  refine ⟨outer, extent, inner, hshape, rfl, hwell, fun tensor hmem => ?_⟩
  obtain ⟨hlength, htake, hdrop⟩ := split_of_agreeExcept (h.agreeExcept tensor hmem)
  have haxis : outer.length < tensor.shape.length := by
    rw [hlength]
    exact h.axis_lt
  have hsplit := Shape.eq_append_of_lt haxis
  rw [htake, hdrop, hshape] at hsplit
  simpa using hsplit

/-- Tensors that can be joined stand one behind the other under the shape of the first one. -/
theorem Compatible.makes_concat (h : Compatible first rest axis)
    (hwell : ∀ tensor ∈ first :: rest, tensor.WellFormed) :
    Makes (concat (first :: rest) axis) (first.shape.set axis (along axis (first :: rest)))
      (joined? axis (first :: rest)) := by
  obtain ⟨outer, extent, inner, hshape, rfl, haligned⟩ := h.exists_aligned hwell
  have haddressable := h.addressable
  rw [hshape, Shape.set_around] at haddressable ⊢
  exact Tensor.makes_concat haligned haddressable

theorem exists_concat_iff (hwell : ∀ tensor ∈ first :: rest, tensor.WellFormed) :
    (∃ result, concat (first :: rest) axis = .ok result) ↔ Compatible first rest axis := by
  constructor
  · intro ⟨result, hresult⟩
    have haxis : axis < first.shape.length := by
      by_contra hout
      rw [concat] at hresult
      simp only [Shape.split_eq_error hout] at hresult
      cases hresult
    rw [concat_cons_eq first rest haxis] at hresult
    obtain ⟨total, htotal, hrest⟩ := bind_eq_ok.1 hresult
    obtain ⟨count, hcount, -⟩ := bind_eq_ok.1 hrest
    obtain ⟨hagree, rfl, hlt⟩ := joinedExtent_eq_ok.1 htotal
    rw [List.map_map] at hlt hcount
    rw [List.forall_mem_map] at hagree
    have hothers (tensor : Tensor S α) (hmem : tensor ∈ rest) :=
      agreeExcept_iff_forall.1 (hagree tensor (List.mem_cons_of_mem _ hmem))
    exact
      { axis_lt := haxis
        rank_eq := fun tensor hmem => (hothers tensor hmem).1
        extent_eq := fun tensor hmem => (hothers tensor hmem).2
        along_lt := hlt
        addressable := Shape.addressable_iff.2
          (Shape.checkedSize_eq_some.1 (Shape.elementCount_eq_ok.1 hcount)).1 }
  · intro h
    obtain ⟨result, hresult, -⟩ := h.makes_concat hwell
    exact ⟨result, hresult⟩

end Compatible

/-! ### Parts of an axis -/

/-- The parts of the given lengths that follow one another on an axis from a place on. -/
def cut (tensor : Tensor S α) (axis : Nat) : Nat → List Nat → Except Error (List (Tensor S α))
  | _, [] => .ok []
  | start, length :: lengths => do
      let part ← tensor.narrow axis start length
      let parts ← cut tensor axis (start + length) lengths
      .ok (part :: parts)

section Cut

variable {outer inner : Shape} {extent : Nat}

/-- Parts that follow one another stand one behind the other as they do in the tensor. -/
theorem exists_cut (h : tensor.WellFormed) (hshape : tensor.shape = outer ++ extent :: inner)
    {start : Nat} {lengths : List Nat} (hstop : start + lengths.sum ≤ extent) :
    ∃ parts, tensor.cut outer.length start lengths = .ok parts ∧
      (parts.map fun part => part.shape.getD outer.length 0) = lengths ∧
      Aligned outer inner parts ∧
      ∀ before k after, outer.IsPlace before → k < lengths.sum → inner.IsPlace after →
        joined? outer.length parts (before ++ k :: after) =
          tensor.element? (before ++ (start + k) :: after) := by
  induction lengths generalizing start with
  | nil => exact ⟨[], rfl, rfl, ⟨by simp, by simp⟩, fun _ _ _ _ hk _ => absurd hk (Nat.not_lt_zero _)⟩
  | cons length lengths ih =>
      rw [List.sum_cons, ← Nat.add_assoc] at hstop
      have haxis : outer.length < tensor.rank := by
        rw [rank, hshape]
        exact Shape.lt_length_around ..
      have hpartStop : start + length ≤ tensor.shape.getD outer.length 0 := by
        rw [hshape, Shape.getD_around]
        omega
      obtain ⟨part, hpart, hmade⟩ := makes_narrow h haxis hpartStop
      -- the others follow from where this part ends
      obtain ⟨parts, hparts, hlengths, haligned, hentries⟩ := ih hstop
      rw [hshape, Shape.set_around] at hmade
      have hlength : part.shape.getD outer.length 0 = length := by
        rw [hmade.shape_eq, Shape.getD_around]
      refine ⟨part :: parts, ?_, ?_, ⟨?_, ?_⟩, ?_⟩
      · rw [cut, hpart, hparts]
        rfl
      · rw [List.map_cons, hlengths, hlength]
      · exact List.forall_mem_cons.2 ⟨hmade.wellFormed, haligned.wellFormed⟩
      · refine List.forall_mem_cons.2 ⟨?_, haligned.shape_eq⟩
        rw [hlength, hmade.shape_eq]
      · intro before k after hbefore hk hafter
        rw [joined?_cons hbefore, hlength]
        by_cases hfirst : k < length
        · rw [if_pos hfirst, hmade.element?_eq _ (hbefore.append (.cons hfirst hafter)),
            hbefore.modify_append]
        · rw [List.sum_cons] at hk
          rw [if_neg hfirst, hentries before _ after hbefore (by omega) hafter, Nat.add_assoc,
            Nat.add_sub_cancel' (Nat.not_lt.1 hfirst)]

/-- Joining the parts of a whole axis gives the tensor back. -/
theorem concat_cut (h : tensor.WellFormed) (haxis : axis < tensor.rank) {lengths : List Nat}
    (hlengths : lengths ≠ []) (hsum : lengths.sum = tensor.shape.getD axis 0) :
    (tensor.cut axis 0 lengths >>= fun parts => concat parts axis) = .ok tensor.renewed := by
  obtain ⟨outer, extent, inner, hshape, rfl⟩ := Shape.exists_around haxis
  have hextent : lengths.sum = extent := by
    rw [hsum, hshape, Shape.getD_around]
  obtain ⟨parts, hparts, hmap, haligned, hentries⟩ :=
    exists_cut h hshape (by omega : 0 + lengths.sum ≤ extent)
  have halong : along outer.length parts = extent := by
    rw [along, hmap, hextent]
  rw [hparts]
  cases parts with
  | nil => exact absurd hmap.symm hlengths
  | cons first rest =>
      show concat (first :: rest) outer.length = .ok tensor.renewed
      have hmade := makes_concat haligned (halong ▸ hshape ▸ h.addressable)
      rw [halong, ← hshape] at hmade
      refine hmade.eq_renewed h fun index hindex => ?_
      rw [hshape] at hindex
      obtain ⟨before, k, after, rfl, hbefore, hk, hafter⟩ := Shape.isPlace_axis_iff.1 hindex
      rw [hentries before k after hbefore (hextent ▸ hk) hafter, Nat.zero_add]

end Cut

/-! ### Cutting and joining undo each other -/

/-- Tensors are joined exactly if they reach equally far on every other axis and what they make up is
not too large. It then reaches as far as all of them together, and the range where one of them
stands is that tensor again. The parts that follow one another on a whole axis make up the tensor. -/
theorem concat_undone_by_narrow (axis : Nat) :
    (∀ tensors : List (Tensor S α), (∀ tensor ∈ tensors, tensor.WellFormed) →
      ((∃ result, concat tensors axis = .ok result) ↔
        ∃ first rest, tensors = first :: rest ∧ Compatible first rest axis) ∧
      ∀ result, concat tensors axis = .ok result →
        result.WellFormed ∧ result.shape.getD axis 0 = along axis tensors ∧
        ∀ before tensor after, tensors = before ++ tensor :: after →
          result.narrow axis (along axis before) (tensor.shape.getD axis 0) = .ok tensor.renewed) ∧
    ∀ tensor : Tensor S α, tensor.WellFormed → axis < tensor.rank → ∀ lengths : List Nat,
      lengths ≠ [] → lengths.sum = tensor.shape.getD axis 0 →
      (tensor.cut axis 0 lengths >>= fun parts => concat parts axis) = .ok tensor.renewed := by
  refine ⟨fun tensors hwell => ?_, fun tensor h haxis lengths => concat_cut h haxis⟩
  cases tensors with
  | nil => exact ⟨by simp [concat], fun result hresult => by cases hresult⟩
  | cons first rest =>
      refine ⟨?_, fun result hresult => ?_⟩
      · rw [exists_concat_iff hwell]
        constructor
        · intro hcompatible
          exact ⟨first, rest, rfl, hcompatible⟩
        · rintro ⟨_, _, heq, hcompatible⟩
          obtain ⟨rfl, rfl⟩ := List.cons.inj heq
          exact hcompatible
      · have hcompatible := (exists_concat_iff hwell).1 ⟨result, hresult⟩
        obtain ⟨outer, extent, inner, hshape, rfl, haligned⟩ := hcompatible.exists_aligned hwell
        have haddressable := hcompatible.addressable
        rw [hshape, Shape.set_around] at haddressable
        have hmade := (makes_concat haligned haddressable).tabulates hresult
        refine ⟨hmade.wellFormed, ?_, fun before tensor after hsplit => ?_⟩
        · rw [hmade.shape_eq, Shape.getD_around]
        · rw [hsplit] at haligned hmade
          exact narrow_joined haligned hmade

/-- Three tensors side by side, the middle one without elements. -/
theorem concat_undone_by_narrow_around_empty_part :
    let left : Tensor HeapStorage Nat := { storage := ⟨#[1, 2]⟩, shape := [2, 1] }
    let empty : Tensor HeapStorage Nat := { storage := ⟨#[]⟩, shape := [2, 0] }
    let right : Tensor HeapStorage Nat := { storage := ⟨#[3, 4, 5, 6]⟩, shape := [2, 2] }
    let result : Tensor HeapStorage Nat := { storage := ⟨#[1, 3, 4, 2, 5, 6]⟩, shape := [2, 3] }
    (∀ tensor ∈ [left, empty, right], tensor.WellFormed) ∧ result.WellFormed ∧
      concat [left, empty, right] 1 = .ok result ∧
      result.narrow 1 1 0 = .ok empty ∧ result.narrow 1 1 2 = .ok right ∧
      (result.cut 1 0 [1, 0, 2] >>= fun parts => concat parts 1) = .ok result := by
  intro left empty right result
  have hwell : ∀ tensor ∈ [left, empty, right], tensor.WellFormed := by decide
  have hresult : result.WellFormed := by decide
  have hmade : concat [left, empty, right] 1 = .ok result := by cbv
  obtain ⟨hjoin, hcut⟩ := @concat_undone_by_narrow HeapStorage _ Nat 1
  obtain ⟨-, -, hparts⟩ := (hjoin _ hwell).2 result hmade
  refine ⟨hwell, hresult, hmade, ?_, ?_, ?_⟩
  · exact hparts [left] empty [right] rfl
  · exact hparts [left, empty] right [] rfl
  · exact hcut result hresult (by decide) [1, 0, 2] (by decide) rfl

end Tensor

end ShapeAssert
