import ShapeAssert.Proofs.Shape.Counting
import ShapeAssert.Proofs.Shape.Order
import ShapeAssert.Tensor.Elementwise
import ShapeAssert.Tensor.Product
import ShapeAssert.Tensor.Reduction
import ShapeAssert.Tensor.Slice

/-! The number of elements that operations on tensors compute. Every operation builds its elements by
loops and its shape by changes of shapes; on well-formed tensors the two agree, so the result fits its
storage or the operation fails for another reason. -/

namespace ShapeAssert

/-- The error says that a storage holds another number of elements than a shape asks for. -/
def Error.IsMisfit : Error → Prop
  | shapeSize .. => True
  | _ => False

namespace Tensor

variable {S : Type → Type} [Storage S] {α : Type}

theorem wellFormed_iff {tensor : Tensor S α} :
    tensor.WellFormed ↔ tensor.shape.Addressable ∧ tensor.data.size = tensor.shape.product := by
  rw [WellFormed, Shape.checkedSize_eq_some, Shape.addressable_iff]
  exact and_congr_right fun _ => eq_comm

theorem WellFormed.addressable {tensor : Tensor S α} (h : tensor.WellFormed) :
    tensor.shape.Addressable :=
  (wellFormed_iff.1 h).1

theorem WellFormed.size_data {tensor : Tensor S α} (h : tensor.WellFormed) :
    tensor.data.size = tensor.shape.product :=
  (wellFormed_iff.1 h).2

theorem WellFormed.size_data_lt {tensor : Tensor S α} (h : tensor.WellFormed) :
    tensor.data.size < sizeLimit := by
  rw [h.size_data]
  exact h.addressable.product_lt

/-- A tensor that fits its storage, or an error with another cause. -/
def Fitting : Except Error (Tensor S α) → Prop
  | .ok tensor => tensor.WellFormed
  | .error e => ¬e.IsMisfit

theorem Fitting.bind {β : Type} {x : Except Error β} {next : β → Except Error (Tensor S α)}
    (hx : ∀ e, x = .error e → ¬e.IsMisfit) (hnext : ∀ b, x = .ok b → Fitting (next b)) :
    Fitting (x >>= next) := by
  cases x with
  | error e => exact hx e rfl
  | ok b => exact hnext b rfl

theorem ofStorage_eq_ok {storage : S α} {shape : Shape} (hshape : shape.Addressable)
    (hsize : (Storage.elements storage).size = shape.product) :
    ofStorage storage shape = .ok { storage, shape } :=
  ofStorage_eq_ok_iff.2 ⟨by rw [hshape.checkedSize, hsize], rfl⟩

theorem fitting_ofStorage {storage : S α} {shape : Shape}
    (hsize : shape.Addressable → (Storage.elements storage).size = shape.product) :
    Fitting (ofStorage storage shape) := by
  by_cases hshape : shape.Addressable
  · rw [ofStorage_eq_ok hshape (hsize hshape)]
    exact wellFormed_iff.2 ⟨hshape, hsize hshape⟩
  · have hcount : shape.elementCount = .error (.shapeTooLarge shape) := by
      rw [Shape.elementCount_eq_error, Shape.checkedSize_eq,
        if_neg (fun hlt => hshape (Shape.addressable_iff.2 hlt))]
      exact ⟨rfl, rfl⟩
    rw [ofStorage, Shape.checkHeld, hcount]
    exact id

theorem fitting_ofArray {data : Array α} {shape : Shape}
    (hsize : shape.Addressable → data.size = shape.product) :
    Fitting (ofArray data shape : Except Error (Tensor S α)) := by
  rw [ofArray_eq]
  exact fitting_ofStorage fun hshape => by rw [Storage.elements_ofArray, hsize hshape]

/-! ### Element by element -/

variable {tensor left right : Tensor S α}

theorem fitting_zipWith (f : α → α → α) (hleft : left.WellFormed) (hright : right.WellFormed) :
    Fitting (zipWith f left right) := by
  rw [zipWith]
  split
  · next hsame =>
      refine fitting_ofArray fun _ => ?_
      rw [Array.size_zipWith, hleft.size_data, hright.size_data, hsame, Nat.min_self]
  · exact id

theorem fitting_scale [Mul α] (h : tensor.WellFormed) (factor : α) :
    Fitting (tensor.scale factor) :=
  fitting_ofArray fun _ => by rw [Array.size_map, h.size_data]

/-- Both numbers of elements are below the largest size, so neither stands for a shape that is not
addressable. -/
theorem fitting_reshape (h : tensor.WellFormed) (hsize : tensor.data.size < maxSize) (shape : Shape) :
    Fitting (tensor.reshape shape) := by
  rw [reshape]
  split
  · next hsame =>
      have hcount : shape.size = tensor.data.size := by
        rw [hsame, size, h.addressable.size, h.size_data]
      have hshape : shape.Addressable := by
        by_contra hnot
        rw [Shape.size_of_not_addressable hnot] at hcount
        omega
      refine wellFormed_iff.2 ⟨hshape, ?_⟩
      rw [← hshape.size, hcount]
      rfl
  · exact id

/-! ### Along an axis -/

theorem size_sums [Zero α] [Add α] (data : Array α) (split : Shape.Split) :
    (sums data split).size = split.outer * split.inner :=
  Array.size_ofFn

theorem reducedShape_eq_ok {shape : Shape} {axis : Nat} (haxis : axis < shape.length) (keep : Bool) :
    reducedShape shape axis keep = .ok (if keep then shape.set axis 1 else shape.eraseIdx axis) := by
  cases keep with
  | true => exact Shape.withExtent_eq_ok haxis 1
  | false => exact Shape.removeAxis_eq_ok haxis

theorem product_reducedShape {shape : Shape} {axis : Nat} (haxis : axis < shape.length)
    (keep : Bool) :
    Shape.product (if keep then shape.set axis 1 else shape.eraseIdx axis) =
      Shape.product (shape.take axis) * Shape.product (shape.drop (axis + 1)) := by
  cases keep with
  | true => exact (Shape.product_set haxis 1).trans (by rw [Nat.one_mul])
  | false => exact Shape.product_eraseIdx

theorem sumAxis_eq [Zero α] [Add α] (tensor : Tensor S α) {axis : Nat}
    (haxis : axis < tensor.shape.length) (keep : Bool) :
    tensor.sumAxis axis keep =
      ofArray (sums tensor.data ⟨Shape.product (tensor.shape.take axis), tensor.shape.getD axis 0,
          Shape.product (tensor.shape.drop (axis + 1))⟩)
        (if keep then tensor.shape.set axis 1 else tensor.shape.eraseIdx axis) := by
  rw [sumAxis, Shape.split_eq_ok haxis, reducedShape_eq_ok haxis]
  rfl

theorem sumAxis_eq_error [Zero α] [Add α] (tensor : Tensor S α) {axis : Nat}
    (haxis : ¬axis < tensor.shape.length) (keep : Bool) :
    tensor.sumAxis axis keep = .error (.invalidAxis axis tensor.shape.length) := by
  rw [sumAxis, Shape.split_eq_error haxis]
  rfl

theorem fitting_sumAxis [Zero α] [Add α] (tensor : Tensor S α) (axis : Nat) (keep : Bool) :
    Fitting (tensor.sumAxis axis keep) := by
  by_cases haxis : axis < tensor.shape.length
  · rw [sumAxis_eq tensor haxis]
    exact fitting_ofArray fun _ => by rw [size_sums, product_reducedShape haxis]
  · rw [sumAxis_eq_error tensor haxis]
    exact id

theorem fitting_meanAxis [Zero α] [Add α] [Div α] [NatCast α] (tensor : Tensor S α) (axis : Nat)
    (keep : Bool) : Fitting (tensor.meanAxis axis keep) := by
  have hsum := fitting_sumAxis tensor axis keep
  rw [meanAxis]
  cases hsummed : tensor.sumAxis axis keep with
  | error e =>
      rw [hsummed] at hsum
      exact hsum
  | ok summed =>
      rw [hsummed] at hsum
      exact fitting_ofArray fun _ => by rw [Array.size_map, WellFormed.size_data hsum]

/-! ### Slices -/

theorem size_copySpan {data : Array α} {span : Span} (h : span.stop ≤ data.size) :
    (copySpan data span).size = span.stop - span.start := by
  rw [copySpan, Array.size_extract, Nat.min_eq_left h]

/-- Rows of one width. -/
theorem size_joinRows {count width : Nat} {row : Nat → Array α}
    (hrow : ∀ i < count, (row i).size = width) : (joinRows count row).size = count * width := by
  rw [joinRows]
  induction count with
  | zero => rw [Nat.fold_zero, Nat.zero_mul, Array.size_empty]
  | succ count ih =>
      rw [Nat.fold_succ, Array.size_append, ih fun i hi => hrow i (Nat.lt_succ_of_lt hi),
        hrow count (Nat.lt_succ_self count), Nat.succ_mul]

/-- A row of `width` elements ends within its rows. -/
theorem row_stop_le {row count width : Nat} (hrow : row < count) :
    row * width + width ≤ count * width := by
  rw [← Nat.succ_mul]
  exact Nat.mul_le_mul_right _ hrow

/-- A span of one row ends within the elements. -/
theorem span_stop_le (split : Shape.Split) {start stop row : Nat} (hrow : row < split.outer)
    (hstop : stop ≤ split.extent) :
    (split.span start stop row).stop ≤ split.outer * (split.extent * split.inner) :=
  calc row * split.extent * split.inner + stop * split.inner
    _ ≤ row * split.extent * split.inner + split.extent * split.inner :=
        Nat.add_le_add_left (Nat.mul_le_mul_right _ hstop) _
    _ = row * (split.extent * split.inner) + split.extent * split.inner := by
        rw [Nat.mul_assoc]
    _ ≤ split.outer * (split.extent * split.inner) := row_stop_le hrow

/-- The rows that are kept of each row. -/
def narrowed (data : Array α) (split : Shape.Split) (start length : Nat) : Array α :=
  if length * split.inner = 0 then #[]
  else joinRows split.outer fun row => copySpan data (split.span start (start + length) row)

/-- As many places are kept of each row. -/
theorem size_copySpan_span {data : Array α} {split : Shape.Split} {start length row : Nat}
    (hstop : start + length ≤ split.extent)
    (hdata : data.size = split.outer * (split.extent * split.inner)) (hrow : row < split.outer) :
    (copySpan data (split.span start (start + length) row)).size = length * split.inner := by
  rw [size_copySpan (hdata ▸ span_stop_le split hrow hstop)]
  simp only [Shape.Split.span, Nat.add_mul]
  omega

theorem size_narrowed {data : Array α} {split : Shape.Split} {start length : Nat}
    (hstop : start + length ≤ split.extent)
    (hdata : data.size = split.outer * (split.extent * split.inner)) :
    (narrowed data split start length).size = split.outer * (length * split.inner) := by
  rw [narrowed]
  split
  · next hzero => rw [hzero, Array.size_empty, Nat.mul_zero]
  · exact size_joinRows fun row hrow => size_copySpan_span hstop hdata hrow

theorem narrow_eq (tensor : Tensor S α) {axis : Nat} (haxis : axis < tensor.shape.length)
    (start length : Nat) :
    tensor.narrow axis start length =
      if tensor.shape.getD axis 0 < start + length then
        .error (.invalidSlice start (min (start + length) maxSize) (tensor.shape.getD axis 0))
      else
        ofArray (narrowed tensor.data ⟨Shape.product (tensor.shape.take axis),
            tensor.shape.getD axis 0, Shape.product (tensor.shape.drop (axis + 1))⟩ start length)
          (tensor.shape.set axis length) := by
  rw [narrow, Shape.split_eq_ok haxis, Shape.withExtent_eq_ok haxis]
  dsimp only [bind, Except.bind]
  split <;> rfl

theorem fitting_narrow (h : tensor.WellFormed) (axis start length : Nat) :
    Fitting (tensor.narrow axis start length) := by
  by_cases haxis : axis < tensor.shape.length
  · rw [narrow_eq tensor haxis]
    split
    · exact id
    · next hstop =>
        refine fitting_ofArray fun _ => ?_
        rw [Shape.product_set haxis]
        refine size_narrowed (Nat.not_lt.1 hstop) ?_
        rw [h.size_data, Shape.product_eq_split haxis]
  · rw [narrow, Shape.split_eq_error haxis]
    exact id

/-! ### Joining -/

theorem agreeExcept_iff {axis : Nat} {first shape : Shape} :
    agreeExcept axis first shape = true ↔ first.set axis 0 = shape.set axis 0 :=
  beq_iff_eq

/-- Shapes that agree on every axis but one are split alike around it. -/
theorem split_of_agreeExcept {axis : Nat} {first shape : Shape}
    (h : agreeExcept axis first shape = true) :
    shape.length = first.length ∧ shape.take axis = first.take axis ∧
      shape.drop (axis + 1) = first.drop (axis + 1) := by
  have hset := agreeExcept_iff.1 h
  refine ⟨?_, ?_, ?_⟩
  · simpa using (congrArg List.length hset).symm
  · simpa [List.take_set_of_le] using (congrArg (List.take axis) hset).symm
  · simpa [List.drop_set_of_lt] using (congrArg (List.drop (axis + 1)) hset).symm

/-- One step of adding up the extents that are joined. -/
def joinStep (axis : Nat) (first : Shape) (total : Nat) (shape : Shape) : Except Error Nat :=
  if agreeExcept axis first shape then
    let total := shape.getD axis 0 + total
    if total < sizeLimit then .ok total else .error (.shapeTooLarge first)
  else .error (.incompatibleShapes first shape)

theorem joinedExtent_eq (axis : Nat) (first : Shape) (shapes : List Shape) :
    joinedExtent axis first shapes = shapes.foldlM (joinStep axis first) 0 := rfl

theorem joinStep_eq_ok {axis total next : Nat} {first shape : Shape} :
    joinStep axis first total shape = .ok next ↔
      agreeExcept axis first shape = true ∧ next = shape.getD axis 0 + total ∧ next < sizeLimit := by
  rw [joinStep]
  by_cases hagree : agreeExcept axis first shape = true
  · rw [if_pos hagree]
    dsimp only
    split
    · simp only [Except.ok.injEq]
      grind
    · simp only [reduceCtorEq, false_iff]
      grind
  · simp [hagree]

theorem not_isMisfit_of_joinStep {axis total : Nat} {first shape : Shape} {e : Error}
    (h : joinStep axis first total shape = .error e) : ¬e.IsMisfit := by
  rw [joinStep] at h
  split at h
  · dsimp only at h
    split at h
    · cases h
    · obtain rfl := Except.error.inj h
      exact id
  · obtain rfl := Except.error.inj h
    exact id

theorem foldlM_joinStep_eq_ok {axis start total : Nat} {first : Shape} {shapes : List Shape}
    (hstart : start < sizeLimit) :
    shapes.foldlM (joinStep axis first) start = .ok total ↔
      (∀ shape ∈ shapes, agreeExcept axis first shape = true) ∧
        total = start + (shapes.map fun shape => shape.getD axis 0).sum ∧ total < sizeLimit := by
  induction shapes generalizing start with
  | nil =>
      constructor
      · intro h
        obtain rfl := Except.ok.inj h
        exact ⟨by simp, rfl, hstart⟩
      · rintro ⟨-, rfl, -⟩
        rfl
  | cons shape shapes ih =>
      rw [List.foldlM_cons, bind_eq_ok, List.forall_mem_cons, List.map_cons, List.sum_cons]
      constructor
      · rintro ⟨next, hnext, hrest⟩
        obtain ⟨hagree, rfl, hlt⟩ := joinStep_eq_ok.1 hnext
        obtain ⟨hall, hsum, htotal⟩ := (ih hlt).1 hrest
        exact ⟨⟨hagree, hall⟩, by omega, htotal⟩
      · rintro ⟨⟨hagree, hall⟩, hsum, htotal⟩
        have hlt : shape.getD axis 0 + start < sizeLimit := by omega
        exact ⟨_, joinStep_eq_ok.2 ⟨hagree, rfl, hlt⟩, (ih hlt).2 ⟨hall, by omega, htotal⟩⟩

/-- Tensors that can be joined agree with the first, and the extent is the sum of theirs. -/
theorem joinedExtent_eq_ok {axis total : Nat} {first : Shape} {shapes : List Shape} :
    joinedExtent axis first shapes = .ok total ↔
      (∀ shape ∈ shapes, agreeExcept axis first shape = true) ∧
        total = (shapes.map fun shape => shape.getD axis 0).sum ∧ total < sizeLimit := by
  rw [joinedExtent_eq, foldlM_joinStep_eq_ok (by decide), Nat.zero_add]

theorem not_isMisfit_of_joinedExtent {axis : Nat} {first : Shape} {shapes : List Shape} {e : Error}
    (h : joinedExtent axis first shapes = .error e) : ¬e.IsMisfit := by
  rw [joinedExtent_eq] at h
  generalize 0 = start at h
  induction shapes generalizing start with
  | nil => cases h
  | cons shape shapes ih =>
      rw [List.foldlM_cons] at h
      rcases bind_eq_error.1 h with hnext | ⟨next, -, hrest⟩
      · exact not_isMisfit_of_joinStep hnext
      · exact ih next hrest

/-- The part of one row that a tensor contributes. -/
def piece (axis inner row : Nat) (tensor : Tensor S α) : Array α :=
  copySpan tensor.data (.chunk (tensor.shape.getD axis 0 * inner) row)

/-- The rows of all tensors, joined row by row. -/
def concatenated (tensors : List (Tensor S α)) (axis total : Nat) (split : Shape.Split) : Array α :=
  if total * split.inner = 0 then #[]
  else joinRows split.outer fun row =>
    tensors.foldl (fun joined tensor => joined ++ piece axis split.inner row tensor) #[]

/-- The row of a tensor lies within its elements. -/
theorem chunk_stop_le {tensor : Tensor S α} (h : tensor.WellFormed) {axis row : Nat} {split : Shape.Split}
    (haxis : axis < tensor.shape.length) (houter : split.outer = Shape.product (tensor.shape.take axis))
    (hinner : split.inner = Shape.product (tensor.shape.drop (axis + 1))) (hrow : row < split.outer) :
    (row + 1) * (tensor.shape.getD axis 0 * split.inner) ≤ tensor.data.size := by
  rw [h.size_data, Shape.product_eq_split haxis, ← houter, ← hinner]
  exact Nat.mul_le_mul_right _ hrow

theorem concat_cons_eq (first : Tensor S α) (rest : List (Tensor S α)) {axis : Nat}
    (haxis : axis < first.shape.length) :
    concat (first :: rest) axis =
      (joinedExtent axis first.shape ((first :: rest).map (·.shape)) >>= fun total =>
        Shape.elementCount (first.shape.set axis total) >>= fun _ =>
          ofArray (concatenated (first :: rest) axis total ⟨Shape.product (first.shape.take axis),
            first.shape.getD axis 0, Shape.product (first.shape.drop (axis + 1))⟩)
            (first.shape.set axis total)) := by
  rw [concat]
  simp only [Shape.split_eq_ok haxis, Shape.withExtent_eq_ok haxis]
  rfl

/-- Tensors that can be joined, each well-formed. -/
structure Joinable (tensors : List (Tensor S α)) (axis : Nat) (split : Shape.Split) : Prop where
  wellFormed : ∀ tensor ∈ tensors, tensor.WellFormed
  axis_lt : ∀ tensor ∈ tensors, axis < tensor.shape.length
  outer : ∀ tensor ∈ tensors, split.outer = Shape.product (tensor.shape.take axis)
  inner : ∀ tensor ∈ tensors, split.inner = Shape.product (tensor.shape.drop (axis + 1))

theorem Joinable.of_joinedExtent {tensors : List (Tensor S α)} {axis total : Nat} {first : Shape}
    (haxis : axis < first.length) (hwell : ∀ tensor ∈ tensors, tensor.WellFormed)
    (h : joinedExtent axis first (tensors.map (·.shape)) = .ok total) :
    Joinable tensors axis ⟨Shape.product (first.take axis), first.getD axis 0,
      Shape.product (first.drop (axis + 1))⟩ := by
  have hsplit (tensor : Tensor S α) (hmem : tensor ∈ tensors) :=
    split_of_agreeExcept ((joinedExtent_eq_ok.1 h).1 tensor.shape (List.mem_map_of_mem hmem))
  exact
    { wellFormed := hwell
      axis_lt := fun tensor hmem => by rwa [(hsplit tensor hmem).1]
      outer := fun tensor hmem => by rw [(hsplit tensor hmem).2.1]
      inner := fun tensor hmem => by rw [(hsplit tensor hmem).2.2] }

theorem Joinable.chunk_stop_le {tensors : List (Tensor S α)} {axis row : Nat} {split : Shape.Split}
    (h : Joinable tensors axis split) (hrow : row < split.outer) {tensor : Tensor S α}
    (hmem : tensor ∈ tensors) :
    (row + 1) * (tensor.shape.getD axis 0 * split.inner) ≤ tensor.data.size :=
  Tensor.chunk_stop_le (h.wellFormed tensor hmem) (h.axis_lt tensor hmem) (h.outer tensor hmem)
    (h.inner tensor hmem) hrow

theorem Joinable.size_piece {tensors : List (Tensor S α)} {axis row : Nat} {split : Shape.Split}
    (h : Joinable tensors axis split) (hrow : row < split.outer) {tensor : Tensor S α}
    (hmem : tensor ∈ tensors) :
    (piece axis split.inner row tensor).size = tensor.shape.getD axis 0 * split.inner := by
  rw [piece, size_copySpan (h.chunk_stop_le hrow hmem), Span.chunk, Nat.succ_mul]
  exact Nat.add_sub_cancel_left _ _

theorem size_foldl_append {β : Type} (f : β → Array α) (items : List β) (start : Array α) :
    (items.foldl (fun joined item => joined ++ f item) start).size =
      start.size + (items.map fun item => (f item).size).sum := by
  induction items generalizing start with
  | nil => simp
  | cons item items ih =>
      rw [List.foldl_cons, ih, Array.size_append, List.map_cons, List.sum_cons, Nat.add_assoc]

/-- The pieces of all tensors make up a row. -/
theorem Joinable.size_row {tensors : List (Tensor S α)} {axis total row : Nat} {split : Shape.Split}
    (h : Joinable tensors axis split)
    (htotal : total = (tensors.map fun tensor => tensor.shape.getD axis 0).sum)
    (hrow : row < split.outer) :
    (tensors.foldl (fun joined tensor => joined ++ piece axis split.inner row tensor) #[]).size =
      total * split.inner := by
  have hpieces : tensors.map (fun tensor => (piece axis split.inner row tensor).size) =
      tensors.map fun tensor => tensor.shape.getD axis 0 * split.inner :=
    List.map_congr_left fun tensor hmem => h.size_piece hrow hmem
  rw [size_foldl_append, hpieces, List.sum_map_mul_right, htotal, Array.size_empty, Nat.zero_add]

theorem Joinable.size_concatenated {tensors : List (Tensor S α)} {axis total : Nat}
    {split : Shape.Split} (h : Joinable tensors axis split)
    (htotal : total = (tensors.map fun tensor => tensor.shape.getD axis 0).sum) :
    (concatenated tensors axis total split).size = split.outer * (total * split.inner) := by
  rw [concatenated]
  split
  · next hzero => rw [hzero, Array.size_empty, Nat.mul_zero]
  · exact size_joinRows fun row hrow => h.size_row htotal hrow

theorem fitting_concat {tensors : List (Tensor S α)} (h : ∀ tensor ∈ tensors, tensor.WellFormed)
    (axis : Nat) : Fitting (concat tensors axis) := by
  cases tensors with
  | nil => exact (id : ¬Error.IsMisfit (.incompatibleShapes [] []))
  | cons first rest =>
      by_cases haxis : axis < first.shape.length
      swap
      · rw [concat]
        simp only [Shape.split_eq_error haxis]
        exact id
      rw [concat_cons_eq first rest haxis]
      refine Fitting.bind (fun e he => not_isMisfit_of_joinedExtent he) fun total htotal => ?_
      refine Fitting.bind (fun e he => ?_) fun _ _ => fitting_ofArray fun _ => ?_
      · obtain ⟨-, rfl⟩ := Shape.elementCount_eq_error.1 he
        exact id
      · have hsum := (joinedExtent_eq_ok.1 htotal).2.1
        rw [List.map_map] at hsum
        rw [(Joinable.of_joinedExtent haxis h htotal).size_concatenated hsum, Shape.product_set haxis]

/-! ### Reordering axes -/

theorem permute_eq (h : tensor.WellFormed) {order : List Nat} (horder : tensor.shape.IsOrder order) :
    tensor.permute order =
      ofArray (gather tensor.data (tensor.shape.reorder order)
        (order.map fun axis => (Shape.rowMajor tensor.shape).getD axis 0)
        (Shape.size (tensor.shape.reorder order))
        (Shape.origin (tensor.shape.reorder order)) #[]) (tensor.shape.reorder order) := by
  rw [permute, Shape.permute_eq_ok.2 ⟨horder, rfl⟩, tensor.strides_eq, h.addressable.strides]
  rfl

/-- Under the strides of a reordered well-formed tensor every place has an element. -/
theorem WellFormed.offset_lt (h : tensor.WellFormed) {order : List Nat}
    (horder : tensor.shape.IsOrder order) {index : List Nat}
    (hindex : Shape.IsPlace (tensor.shape.reorder order) index) :
    Shape.offset (order.map fun axis => (Shape.rowMajor tensor.shape).getD axis 0) index <
      tensor.data.size := by
  rw [h.size_data]
  exact horder.offset_lt hindex

theorem fitting_permute (h : tensor.WellFormed) (order : List Nat) :
    Fitting (tensor.permute order) := by
  cases hshape : tensor.shape.permute order with
  | error e =>
      rw [permute, hshape]
      cases Shape.permute_eq_error.1 hshape with
      | length => exact id
      | missing => exact id
      | repeated => exact id
  | ok shape =>
      obtain ⟨horder, rfl⟩ := Shape.permute_eq_ok.1 hshape
      rw [permute_eq h horder]
      exact fitting_ofArray fun haddressable =>
        haddressable.size_gather fun index hindex => h.offset_lt horder hindex

theorem fitting_transpose (h : tensor.WellFormed) (a b : Nat) : Fitting (tensor.transpose a b) := by
  rw [transpose]
  split
  · exact fitting_permute h _
  · exact id

/-! ### Products of matrices -/

theorem fitting_matmul [Zero α] [Add α] [Mul α] (left right : Tensor S α) :
    Fitting (left.matmul right) := by
  rw [matmul]
  split
  · exact id
  · next sizes hsizes =>
      refine Fitting.bind (fun e he => ?_) fun count hcount => fitting_ofArray fun hshape => ?_
      · obtain ⟨-, rfl⟩ := Shape.elementCount_eq_error.1 he
        exact id
      · rw [hshape.elementCount] at hcount
        rw [Array.size_ofFn, Except.ok.inj hcount]

end Tensor

end ShapeAssert
