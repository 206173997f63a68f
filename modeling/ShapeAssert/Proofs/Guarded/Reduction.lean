import ShapeAssert.Proofs.Guarded.Loop

/-! Sums and means along an axis, with every place computed in sizes. -/

namespace ShapeAssert.Guarded

variable {S : Type → Type} [Storage S] {α : Type}

/-- Adds the elements with place `k` on the axis to the sums of their row. -/
def addSpan [Add α] (data : Array α) (split : Shape.Split) (row k : Nat) (out : Array α) :
    Option (Array α) := do
  let base ← mul (← add (← mul row split.extent) k) split.inner
  loop split.inner out fun i out => do
    let x ← data[← add base i]?
    let place ← add (← mul row split.inner) i
    update out place (· + x)

/-- The sums along the axis, added up in a buffer that starts out with zeros. -/
def sums [Zero α] [Add α] (data : Array α) (split : Shape.Split) : Option (Array α) := do
  let size ← mul split.outer split.inner
  loop split.outer (Array.replicate size 0) fun row out =>
    loop split.extent out fun k out => addSpan data split row k out

def sumAxis [Zero α] [Add α] (tensor : Tensor S α) (axis : Nat) (keep : Bool) :
    Run (Tensor S α) := do
  let split ← split tensor.shape axis
  let out ← Run.step (sums tensor.data split)
  let shape ← Run.safe (Tensor.reducedShape tensor.shape axis keep)
  Run.safe (Tensor.ofArray out shape)

/-- The sum divided by the extent of the axis. -/
def meanAxis [Zero α] [Add α] [Div α] [NatCast α] (tensor : Tensor S α) (axis : Nat)
    (keep : Bool) : Run (Tensor S α) := do
  let summed ← sumAxis tensor axis keep
  let extent ← Run.step tensor.shape[axis]?
  Run.safe (Tensor.ofArray (summed.data.map (· / (extent : α))) summed.shape)

section Sums

variable [Zero α] [Add α] {data : Array α} {split : Shape.Split}
  (hsplit : Shape.Addressable [split.outer, split.extent, split.inner])
  (hdata : data.size = split.outer * (split.extent * split.inner))
include hsplit hdata

/-- A span changes the sums of its row, each by the element at its place. -/
theorem addSpan_eq {row k : Nat} (hrow : row < split.outer) (hk : k < split.extent) {out : Array α}
    (hout : out.size = split.outer * split.inner) :
    addSpan data split row k out =
      some (alter (row * split.inner) split.inner
        (fun i total => total + data.getD (split.offset row k i) 0) out) := by
  have hsize := grid_size_lt hsplit
  have hplaces := grid_ends_lt hsplit le_rfl le_rfl
  have hstep : row * split.extent + k ≤ split.outer * split.extent :=
    (Nat.add_le_add_left hk.le _).trans (Tensor.row_stop_le hrow)
  have hpair := grid_first_lt hsplit le_rfl le_rfl
  have hbase : (row * split.extent + k) * split.inner ≤
      split.outer * (split.extent * split.inner) := by
    rw [← Nat.mul_assoc]
    exact Nat.mul_le_mul_right _ hstep
  unfold addSpan
  rw [mul_eq_some (grid_first_lt hsplit hrow.le le_rfl)]
  simp only [Option.bind_eq_bind, Option.bind_some]
  rw [add_eq_some (hstep.trans_lt hpair), Option.bind_some, mul_eq_some (hbase.trans_lt hsize),
    Option.bind_some]
  -- step `i` reads one element and changes the sum at the same place of the row
  refine loop_places hout fun i hi out hout => ?_
  have hread : (row * split.extent + k) * split.inner + i < data.size := by
    rw [hdata, Nat.add_mul]
    exact grid_place_lt hrow hk hi
  have hwrite : row * split.inner + i < split.outer * split.inner :=
    Shape.block_lt hrow hi
  rw [add_eq_some (by omega), Option.bind_some, Array.getElem?_eq_getElem hread, Option.bind_some,
    mul_eq_some (grid_ends_lt hsplit hrow.le le_rfl), Option.bind_some,
    add_eq_some (by omega), Option.bind_some, update_eq_alter (by omega)]
  simp only [Shape.Split.offset, Array.getD, dif_pos hread, Array.getInternal_eq_getElem]

theorem sums_eq : sums data split = some (Tensor.sums data split) := by
  have hbuffer : (Array.replicate (split.outer * split.inner) (0 : α)).size =
      split.outer * split.inner := Array.size_replicate
  have hrow (row : Nat) (hrow : row < split.outer) (out : Array α)
      (hout : out.size = split.outer * split.inner) :
      loop split.extent out (fun k out => addSpan data split row k out) =
        some (alter (0 + row * split.inner) split.inner (fun i total =>
          split.extent.fold (fun k _ total => total + data.getD (split.offset row k i) 0) total)
          out) := by
    rw [Nat.zero_add]
    exact loop_same hout fun k hk out hout => addSpan_eq hsplit hdata hrow hk hout
  unfold sums
  rw [mul_eq_some (grid_ends_lt hsplit le_rfl le_rfl)]
  simp only [Option.bind_eq_bind, Option.bind_some]
  rw [loop_blocks hbuffer hrow, alter_replicate]
  rfl

end Sums

variable {tensor : Tensor S α}

theorem sumAxis_eq [Zero α] [Add α] (h : tensor.WellFormed) (axis : Nat) (keep : Bool) :
    sumAxis tensor axis keep = Run.safe (tensor.sumAxis axis keep) := by
  unfold sumAxis Tensor.sumAxis
  rw [split_eq h.addressable]
  refine Run.safe_bind fun split hsplit => ?_
  obtain ⟨-, hgrid, hproduct⟩ := addressable_split h.addressable hsplit
  rw [sums_eq hgrid (h.size_data.trans hproduct), Run.step_some_bind]
  exact Run.safe_bind fun shape _ => rfl

theorem meanAxis_eq [Zero α] [Add α] [Div α] [NatCast α] (h : tensor.WellFormed) (axis : Nat)
    (keep : Bool) : meanAxis tensor axis keep = Run.safe (tensor.meanAxis axis keep) := by
  unfold meanAxis Tensor.meanAxis
  rw [sumAxis_eq h]
  refine Run.safe_bind fun summed hsummed => ?_
  have haxis : axis < tensor.shape.length := by
    by_contra hnot
    rw [Tensor.sumAxis_eq_error tensor hnot] at hsummed
    cases hsummed
  rw [List.getElem?_eq_getElem haxis, Run.step_some_bind, List.getD_eq_getElem _ _ haxis]

end ShapeAssert.Guarded
