import ShapeAssert.Proofs.Shape.Places
import ShapeAssert.Proofs.Tensor.Fitting

/-! The entries of a tensor by place. A well-formed tensor has one entry at every place of its shape and
is known by them, so what an operation makes is described by a shape and the entry at each of its
places. Two such descriptions that agree at all places are of the same tensor. -/

namespace ShapeAssert

namespace Tensor

variable {S : Type → Type} [Storage S] {α : Type}

instance (shape : Shape) (index : List Nat) : Decidable (shape.IsPlace index) :=
  inferInstanceAs (Decidable (List.Forall₂ _ _ _))

/-- The entry at a place. -/
def element? (tensor : Tensor S α) (index : List Nat) : Option α :=
  if tensor.shape.IsPlace index then tensor.data[tensor.shape.position index]? else none

/-- The same elements under the same shape, in a new storage. -/
def renewed (tensor : Tensor S α) : Tensor S α :=
  { tensor with storage := Storage.ofArray tensor.data }

variable {tensor left right : Tensor S α} {index : List Nat}

theorem element?_of_isPlace (h : tensor.shape.IsPlace index) :
    tensor.element? index = tensor.data[tensor.shape.position index]? :=
  if_pos h

theorem WellFormed.position_lt (h : tensor.WellFormed) (hindex : tensor.shape.IsPlace index) :
    tensor.shape.position index < tensor.data.size := by
  rw [h.size_data]
  exact hindex.position_lt

theorem WellFormed.exists_entry (h : tensor.WellFormed) (hindex : tensor.shape.IsPlace index) :
    ∃ x, tensor.element? index = some x := by
  rw [element?_of_isPlace hindex, Array.getElem?_eq_getElem (h.position_lt hindex)]
  exact ⟨_, rfl⟩

/-- Tensors of one shape with the same entries hold the same elements. -/
theorem WellFormed.data_eq (hleft : left.WellFormed) (hright : right.WellFormed)
    (hshape : left.shape = right.shape)
    (hentry : ∀ index, left.shape.IsPlace index → left.element? index = right.element? index) :
    left.data = right.data := by
  have hsize : left.data.size = right.data.size := by
    rw [hleft.size_data, hright.size_data, hshape]
  refine Array.ext_getElem? fun number => ?_
  by_cases hnumber : number < left.data.size
  · -- every element has a place
    rw [hleft.size_data] at hnumber
    obtain ⟨index, hindex, rfl⟩ := Shape.exists_place_of_lt hnumber
    have hsame := hentry index hindex
    rw [element?_of_isPlace hindex, element?_of_isPlace (hshape ▸ hindex)] at hsame
    rw [hsame, hshape]
  · rw [Array.getElem?_eq_none (Nat.not_lt.1 hnumber),
      Array.getElem?_eq_none (hsize ▸ Nat.not_lt.1 hnumber)]

/-- A tensor in a new storage that has the given shape and entries. -/
structure Tabulates (tensor : Tensor S α) (shape : Shape) (entry : List Nat → Option α) : Prop where
  wellFormed : tensor.WellFormed
  shape_eq : tensor.shape = shape
  storage_eq : tensor.storage = Storage.ofArray tensor.data
  element?_eq : ∀ index, shape.IsPlace index → tensor.element? index = entry index

namespace Tabulates

variable {shape : Shape} {entry entry' : List Nat → Option α}

theorem eq (hleft : left.Tabulates shape entry) (hright : right.Tabulates shape entry')
    (hentry : ∀ index, shape.IsPlace index → entry index = entry' index) : left = right := by
  have hshape : left.shape = right.shape := hleft.shape_eq.trans hright.shape_eq.symm
  have hdata : left.data = right.data := by
    refine hleft.wellFormed.data_eq hright.wellFormed hshape fun index hindex => ?_
    rw [hleft.shape_eq] at hindex
    rw [hleft.element?_eq index hindex, hright.element?_eq index hindex, hentry index hindex]
  have hstorage : left.storage = right.storage := by
    rw [hleft.storage_eq, hright.storage_eq, hdata]
  exact Tensor.ext hstorage hshape

theorem isPlace (h : tensor.Tabulates shape entry) (hindex : shape.IsPlace index) :
    tensor.shape.IsPlace index :=
  h.shape_eq ▸ hindex

theorem exists_entry (h : tensor.Tabulates shape entry) (hindex : shape.IsPlace index) :
    ∃ x, entry index = some x ∧ tensor.element? index = some x := by
  obtain ⟨x, hx⟩ := h.wellFormed.exists_entry (h.isPlace hindex)
  exact ⟨x, (h.element?_eq index hindex).symm.trans hx, hx⟩

end Tabulates

/-- A tensor that has the given shape and entries, in whatever storage. -/
structure HasEntries (tensor : Tensor S α) (shape : Shape) (entry : List Nat → Option α) : Prop where
  wellFormed : tensor.WellFormed
  shape_eq : tensor.shape = shape
  element?_eq : ∀ index, shape.IsPlace index → tensor.element? index = entry index

theorem WellFormed.hasEntries (h : tensor.WellFormed) {shape : Shape} (hshape : tensor.shape = shape) :
    tensor.HasEntries shape tensor.element? :=
  ⟨h, hshape, fun _ _ => rfl⟩

theorem Tabulates.hasEntries {shape : Shape} {entry : List Nat → Option α}
    (h : tensor.Tabulates shape entry) : tensor.HasEntries shape entry :=
  ⟨h.wellFormed, h.shape_eq, h.element?_eq⟩

theorem WellFormed.tabulates_renewed (h : tensor.WellFormed) :
    tensor.renewed.Tabulates tensor.shape tensor.element? := by
  have hdata : tensor.renewed.data = tensor.data := Storage.elements_ofArray tensor.data
  refine ⟨?_, rfl, ?_, fun index _ => ?_⟩
  · rw [WellFormed, hdata]
    exact h
  · rw [hdata]
    rfl
  · rw [element?, hdata]
    rfl

/-! ### Operations -/

/-- An operation succeeds with a new tensor that has the given shape and entries. -/
def Makes (made : Except Error (Tensor S α)) (shape : Shape) (entry : List Nat → Option α) : Prop :=
  ∃ tensor, made = .ok tensor ∧ tensor.Tabulates shape entry

namespace Makes

variable {made made' : Except Error (Tensor S α)} {shape shape' : Shape}
  {entry entry' : List Nat → Option α}

theorem tabulates (h : Makes made shape entry) (hmade : made = .ok tensor) :
    tensor.Tabulates shape entry := by
  obtain ⟨_, rfl, htensor⟩ := h
  obtain rfl := Except.ok.inj hmade
  exact htensor

/-- Two operations whose tensors have the same shape and entries have the same result. -/
theorem eq (h : Makes made shape entry) (h' : Makes made' shape entry')
    (hentry : ∀ index, shape.IsPlace index → entry index = entry' index) : made = made' := by
  obtain ⟨_, rfl, htensor⟩ := h
  obtain ⟨_, rfl, htensor'⟩ := h'
  exact congrArg Except.ok (htensor.eq htensor' hentry)

theorem congr (h : Makes made shape entry)
    (hentry : ∀ index, shape.IsPlace index → entry index = entry' index) :
    Makes made shape entry' := by
  obtain ⟨tensor, hmade, htensor⟩ := h
  exact ⟨tensor, hmade, htensor.wellFormed, htensor.shape_eq, htensor.storage_eq,
    fun index hindex => (htensor.element?_eq index hindex).trans (hentry index hindex)⟩

theorem bind (h : Makes made shape entry) {next : Tensor S α → Except Error (Tensor S α)}
    (hnext : ∀ tensor, tensor.Tabulates shape entry → Makes (next tensor) shape' entry') :
    Makes (made >>= next) shape' entry' := by
  obtain ⟨tensor, rfl, htensor⟩ := h
  exact hnext tensor htensor

/-- An operation whose tensor has the shape and the entries of another one gives that one back. -/
theorem eq_renewed (h : Makes made tensor.shape entry) (htensor : tensor.WellFormed)
    (hentry : ∀ index, tensor.shape.IsPlace index → entry index = tensor.element? index) :
    made = .ok tensor.renewed :=
  h.eq ⟨_, rfl, htensor.tabulates_renewed⟩ hentry

end Makes

/-- A tensor is made of an array of the right size that has each entry at the number of its place. -/
theorem makes_ofArray {data : Array α} {shape : Shape} {entry : List Nat → Option α}
    (hshape : shape.Addressable) (hsize : data.size = shape.product)
    (hentry : ∀ index, shape.IsPlace index → data[shape.position index]? = entry index) :
    Makes (ofArray data shape : Except Error (Tensor S α)) shape entry := by
  have hdata : ({ storage := Storage.ofArray data, shape } : Tensor S α).data = data :=
    Storage.elements_ofArray data
  rw [ofArray_eq]
  refine ⟨_, ofStorage_eq_ok hshape (by rw [Storage.elements_ofArray, hsize]), ?_⟩
  refine ⟨wellFormed_iff.2 ⟨hshape, by rw [hdata, hsize]⟩, rfl, by rw [hdata], fun index h => ?_⟩
  rw [element?_of_isPlace h, hdata, hentry index h]

theorem data_of_ofArray {data : Array α} {shape : Shape} (h : ofArray data shape = .ok tensor) :
    tensor.data = data := by
  rw [ofArray_eq] at h
  obtain ⟨-, rfl⟩ := ofStorage_eq_ok_iff.1 h
  exact Storage.elements_ofArray data

/-- Changing every element changes every entry. -/
theorem makes_map {shape : Shape} {entry : List Nat → Option α} (h : tensor.Tabulates shape entry)
    (f : α → α) : Makes (ofArray (tensor.data.map f) tensor.shape : Except Error (Tensor S α)) shape
      fun index => (entry index).map f := by
  rw [h.shape_eq]
  refine makes_ofArray (h.shape_eq ▸ h.wellFormed.addressable) ?_ fun index hindex => ?_
  · rw [Array.size_map, h.wellFormed.size_data, h.shape_eq]
  · rw [Array.getElem?_map, ← h.element?_eq index hindex, element?_of_isPlace (h.isPlace hindex),
      h.shape_eq]

/-! ### Lines -/

/-- The entries along an axis, at a place on the other axes. -/
def line? (tensor : Tensor S α) (axis : Nat) (index : List Nat) : Option (List α) :=
  (List.range (tensor.shape.getD axis 0)).mapM fun k => tensor.element? (index.insertIdx axis k)

/-- The elements added up from zero, the first one first. -/
def total [Zero α] [Add α] (terms : List α) : α :=
  terms.foldl (· + ·) 0

/-- The line along the axis between an outer and an inner part of a place. -/
theorem HasEntries.line?_eq {outer inner : Shape} {extent : Nat} {entry : List Nat → Option α}
    (h : tensor.HasEntries (outer ++ extent :: inner) entry) {before after : List Nat}
    (hbefore : outer.IsPlace before) (hafter : inner.IsPlace after) :
    tensor.line? outer.length (before ++ after) =
      (List.range extent).mapM fun k => entry (before ++ k :: after) := by
  rw [line?, h.shape_eq, Shape.getD_around]
  refine mapM_congr fun k hk => ?_
  rw [hbefore.insertIdx_append]
  exact h.element?_eq _ (hbefore.append (.cons (List.mem_range.1 hk) hafter))

/-- A line runs through the data in steps of the inner part. -/
theorem WellFormed.line?_eq (h : tensor.WellFormed) {outer inner : Shape} {extent : Nat}
    (hshape : tensor.shape = outer ++ extent :: inner) {before after : List Nat}
    (hbefore : outer.IsPlace before) (hafter : inner.IsPlace after) (default : α) :
    tensor.line? outer.length (before ++ after) =
      some ((List.range extent).map fun k => tensor.data.getD
        ((Shape.around outer extent inner).offset (outer.position before) k (inner.position after))
        default) := by
  rw [line?, hshape, Shape.getD_around]
  refine mapM_eq_some_map fun k hk => ?_
  have hplace : tensor.shape.IsPlace (before ++ k :: after) := by
    rw [hshape]
    exact hbefore.append (.cons (List.mem_range.1 hk) hafter)
  have hlt := h.position_lt hplace
  rw [hbefore.insertIdx_append, element?_of_isPlace hplace, Array.getElem?_eq_getElem hlt,
    Array.getElem_eq_getD default, hshape, Shape.position_axis hbefore]

/-- Adding up numbered elements in increasing order. -/
theorem fold_eq_total [Zero α] [Add α] (count : Nat) (f : Nat → α) :
    count.fold (fun k _ sum => sum + f k) 0 = total ((List.range count).map f) := by
  induction count with
  | zero => rfl
  | succ count ih =>
      rw [Nat.fold_succ, ih, total, total, List.range_succ, List.map_append, List.foldl_append]
      rfl

end Tensor

end ShapeAssert
