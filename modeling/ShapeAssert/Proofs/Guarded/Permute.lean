import ShapeAssert.Proofs.Guarded.Basic

/-! Reordering axes, with offsets and positions computed in sizes. -/

namespace ShapeAssert.Guarded

variable {S : Type → Type} [Storage S] {α : Type}

/-- Adds how far one position leads under its stride. -/
def addStep (total : Nat) (entry : Nat × Nat) : Option Nat := do
  add total (← mul entry.1 entry.2)

/-- How far into memory a place lies, added up from the outermost axis on. -/
def offset (strides index : List Nat) : Option Nat :=
  (index.zip strides).foldlM addStep 0

/-- The place after the given one, with whether it wraps around to the first. -/
def advance : Shape → List Nat → Option (List Nat × Bool)
  | extent :: shape, i :: index => do
      let (index, wrapped) ← advance shape index
      if wrapped then
        let i ← add i 1
        if i < extent then return (i :: index, false) else return (0 :: index, true)
      else return (i :: index, false)
  | _, _ => some ([], true)

/-- The elements at `count` places from the given one on, read under given strides. -/
def gather (data : Array α) (shape : Shape) (strides : List Nat) :
    (count : Nat) → (index : List Nat) → (gathered : Array α) → Option (Array α)
  | 0, _, gathered => some gathered
  | count + 1, index, gathered => do
      let x ← data[← offset strides index]?
      let (index, _) ← advance shape index
      gather data shape strides count index (gathered.push x)

def permute (tensor : Tensor S α) (order : List Nat) : Run (Tensor S α) := do
  let shape ← Run.safe (tensor.shape.permute order)
  let strides ← Run.step (order.mapM fun axis => tensor.strides[axis]?)
  let data ← Run.step (gather tensor.data shape strides shape.size shape.origin #[])
  Run.safe (Tensor.ofArray data shape)

/-- The order of the axes with two of them exchanged. -/
def exchanged (rank a b : Nat) : Option (List Nat) := do
  let axes := List.range rank
  let first ← axes[a]?
  let second ← axes[b]?
  return (axes.set a second).set b first

def transpose (tensor : Tensor S α) (a b : Nat) : Run (Tensor S α) := do
  if a < tensor.rank ∧ b < tensor.rank then
    let order ← Run.step (exchanged tensor.rank a b)
    permute tensor order
  else throw (.invalidAxis (max a b) tensor.rank)

/-- Offsets grow with every position that is added, so none on the way is larger than the last. -/
theorem foldlM_addStep_eq {strides index : List Nat} {start : Nat}
    (h : start + Shape.offset strides index < sizeLimit) :
    (index.zip strides).foldlM addStep start = some (start + Shape.offset strides index) := by
  induction index generalizing strides start with
  | nil => rfl
  | cons i index ih =>
      cases strides with
      | nil => rfl
      | cons stride strides =>
          rw [Shape.offset_cons, ← Nat.add_assoc] at h
          have hmul : i * stride < sizeLimit := by omega
          have hstep : addStep start (i, stride) = some (start + i * stride) := by
            unfold addStep
            dsimp only
            rw [mul_eq_some hmul]
            exact add_eq_some (by omega)
          rw [List.zip_cons_cons, List.foldlM_cons, hstep, Shape.offset_cons, ← Nat.add_assoc]
          exact ih h

theorem offset_eq {strides index : List Nat} (h : Shape.offset strides index < sizeLimit) :
    offset strides index = some (Shape.offset strides index) := by
  rw [← Nat.zero_add (Shape.offset strides index)] at h ⊢
  exact foldlM_addStep_eq h

/-- No position exceeds the extent of its axis, which is a size. -/
theorem advance_eq {shape : Shape} {index : List Nat} (hshape : shape.Addressable)
    (h : shape.IsPlace index) : advance shape index = some (shape.advance index) := by
  induction h with
  | nil => rfl
  | @cons i extent index shape hi _ ih =>
      have hextent : i + 1 < sizeLimit := by
        have hpadded := Shape.addressable_iff.1 hshape
        rw [Shape.paddedProduct_cons] at hpadded
        have hle := Nat.le_mul_of_pos_right (max 1 extent) (Shape.paddedProduct_pos shape)
        omega
      unfold advance Shape.advance
      rw [ih hshape.tail]
      rcases Shape.advance shape index with ⟨rest, _ | _⟩
      · rfl
      · simp only [Option.bind_eq_bind, Option.bind_some, add_eq_some hextent, if_true]
        split <;> rfl

/-- Every place gives its element. -/
theorem gather_eq {data : Array α} {shape : Shape} {strides : List Nat}
    (hshape : shape.Addressable) (hdata : data.size < sizeLimit)
    (hread : ∀ index, shape.IsPlace index → Shape.offset strides index < data.size) {count : Nat}
    {index : List Nat} (hindex : 0 < count → shape.IsPlace index) (gathered : Array α) :
    gather data shape strides count index gathered =
      some (Tensor.gather data shape strides count index gathered) := by
  induction count generalizing index gathered with
  | zero => rfl
  | succ count ih =>
      have hplace := hindex (Nat.succ_pos count)
      have hoffset := hread index hplace
      unfold gather Tensor.gather
      rw [offset_eq (hoffset.trans hdata), advance_eq hshape hplace]
      simp only [Option.bind_eq_bind, Option.bind_some, Array.getElem?_eq_getElem hoffset]
      exact ih (fun _ => hplace.next) _

variable {tensor : Tensor S α}

/-- All axes of an order have a stride. -/
theorem mapM_strides_eq {strides order : List Nat} (h : ∀ axis ∈ order, axis < strides.length) :
    order.mapM (fun axis => strides[axis]?) = some (order.map fun axis => strides.getD axis 0) :=
  mapM_eq_some_map fun axis hmem => by
    rw [List.getElem?_eq_getElem (h axis hmem), List.getD_eq_getElem _ _ (h axis hmem)]

theorem permute_eq (h : tensor.WellFormed) (order : List Nat) :
    permute tensor order = Run.safe (tensor.permute order) := by
  unfold permute Tensor.permute
  refine Run.safe_bind fun shape hshape => ?_
  obtain ⟨horder, rfl⟩ := Shape.permute_eq_ok.1 hshape
  have hreordered := horder.addressable_reorder h.addressable
  have hstrides : tensor.strides = Shape.rowMajor tensor.shape :=
    tensor.strides_eq.trans h.addressable.strides
  have haxes (axis : Nat) (hmem : axis ∈ order) : axis < tensor.strides.length := by
    rw [hstrides, Shape.length_rowMajor]
    exact horder.lt hmem
  have horigin (hpos : 0 < Shape.size (tensor.shape.reorder order)) :
      Shape.IsPlace (tensor.shape.reorder order) (Shape.origin (tensor.shape.reorder order)) := by
    rw [hreordered.size] at hpos
    exact Shape.isPlace_origin hpos
  rw [mapM_strides_eq haxes, Run.step_some_bind, hstrides,
    gather_eq hreordered h.size_data_lt (fun index hindex => h.offset_lt horder hindex) horigin,
    Run.step_some_bind]

theorem exchanged_eq {rank a b : Nat} (ha : a < rank) (hb : b < rank) :
    exchanged rank a b = some (Tensor.swapOrder rank a b) := by
  have hfirst : (List.range rank)[a]? = some a := List.getElem?_range ha
  have hsecond : (List.range rank)[b]? = some b := List.getElem?_range hb
  unfold exchanged
  simp only [hfirst, hsecond, Option.bind_eq_bind, Option.bind_some]
  exact congrArg some Shape.swapOrder_eq_set.symm

theorem transpose_eq (h : tensor.WellFormed) (a b : Nat) :
    transpose tensor a b = Run.safe (tensor.transpose a b) := by
  unfold transpose Tensor.transpose
  split
  · next haxes =>
      rw [exchanged_eq haxes.1 haxes.2, Run.step_some_bind, permute_eq h]
  · rfl

end ShapeAssert.Guarded
