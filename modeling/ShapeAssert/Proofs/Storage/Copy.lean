import ShapeAssert.Program.Basic

/-! Copies on the heap. A tensor is seen through its shape and its elements, so its copy on the heap
looks like the tensor itself, whatever holds the elements. Every operation on copies gives a copy of
what it gives on the tensors, or the same error. -/

namespace ShapeAssert

namespace Tensor

variable {S : Type → Type} [Storage S] {α : Type}

/-- The tensor with its elements copied to the heap. -/
def onHeap (tensor : Tensor S α) : Tensor HeapStorage α :=
  { tensor with storage := ⟨tensor.data⟩ }

@[simp] theorem shape_onHeap (tensor : Tensor S α) : tensor.onHeap.shape = tensor.shape := rfl

theorem map_shape_onHeap (tensors : List (Tensor S α)) :
    (tensors.map onHeap).map (·.shape) = tensors.map (·.shape) := by
  rw [List.map_map]
  rfl

/-- On the heap there is nothing to copy. -/
@[simp] theorem map_onHeap_heap (tensors : List (Tensor HeapStorage α)) :
    tensors.map onHeap = tensors :=
  List.map_id tensors

/-- A computation that goes on alike with copies. -/
theorem map_onHeap_bind {ε β : Type} {x : Except ε β} {f : β → Except ε (Tensor S α)}
    {g : β → Except ε (Tensor HeapStorage α)} (h : ∀ b, (f b).map onHeap = g b) :
    (x >>= f).map onHeap = x >>= g := by
  cases x with
  | error e => rfl
  | ok b => exact h b

theorem map_onHeap_ofStorage (storage : S α) (shape : Shape) :
    (ofStorage storage shape).map onHeap = ofStorage ⟨Storage.elements storage⟩ shape :=
  map_onHeap_bind fun _ => rfl

theorem map_onHeap_ofArray (data : Array α) (shape : Shape) :
    (ofArray data shape : Except Error (Tensor S α)).map onHeap = ofArray data shape := by
  rw [ofArray_eq, ofArray_eq, map_onHeap_ofStorage, Storage.elements_ofArray]
  rfl

variable (tensor left right : Tensor S α)

theorem map_onHeap_reshape (shape : Shape) :
    (tensor.reshape shape).map onHeap = tensor.onHeap.reshape shape := by
  change (if shape.size = tensor.size then _ else _ : Except Error _).map onHeap =
    if shape.size = tensor.size then _ else _
  split <;> rfl

theorem map_onHeap_zipWith (f : α → α → α) :
    (zipWith f left right).map onHeap = zipWith f left.onHeap right.onHeap := by
  change (if left.shape = right.shape then _ else _ : Except Error _).map onHeap =
    if left.shape = right.shape then _ else _
  split
  · exact map_onHeap_ofArray ..
  · rfl

theorem map_onHeap_scale [Mul α] (factor : α) :
    (tensor.scale factor).map onHeap = tensor.onHeap.scale factor :=
  map_onHeap_ofArray ..

theorem map_onHeap_sumAxis [Zero α] [Add α] (axis : Nat) (keep : Bool) :
    (tensor.sumAxis axis keep).map onHeap = tensor.onHeap.sumAxis axis keep := by
  unfold sumAxis
  exact map_onHeap_bind fun split => map_onHeap_bind fun shape => map_onHeap_ofArray ..

theorem map_onHeap_meanAxis [Zero α] [Add α] [Div α] [NatCast α] (axis : Nat) (keep : Bool) :
    (tensor.meanAxis axis keep).map onHeap = tensor.onHeap.meanAxis axis keep := by
  unfold meanAxis
  rw [← map_onHeap_sumAxis]
  cases tensor.sumAxis axis keep with
  | error e => rfl
  | ok summed => exact map_onHeap_ofArray ..

theorem map_onHeap_narrow (axis start length : Nat) :
    (tensor.narrow axis start length).map onHeap = tensor.onHeap.narrow axis start length := by
  unfold narrow
  refine map_onHeap_bind fun split => ?_
  dsimp only
  rw [shape_onHeap]
  split
  · rfl
  · exact map_onHeap_bind fun shape => map_onHeap_ofArray ..

theorem map_onHeap_concat (tensors : List (Tensor S α)) (axis : Nat) :
    (concat tensors axis).map onHeap = concat (tensors.map onHeap) axis := by
  cases tensors with
  | nil => rfl
  | cons first rest =>
      have hshapes := map_shape_onHeap (first :: rest)
      rw [List.map_cons] at hshapes ⊢
      unfold concat
      dsimp only
      rw [hshapes, shape_onHeap]
      refine map_onHeap_bind fun split => map_onHeap_bind fun total => map_onHeap_bind fun shape =>
        map_onHeap_bind fun _ => ?_
      rw [map_onHeap_ofArray]
      simp only [← List.map_cons, List.foldl_map]
      rfl

theorem map_onHeap_permute (order : List Nat) :
    (tensor.permute order).map onHeap = tensor.onHeap.permute order := by
  unfold permute
  exact map_onHeap_bind fun shape => map_onHeap_ofArray ..

theorem map_onHeap_transpose (a b : Nat) :
    (tensor.transpose a b).map onHeap = tensor.onHeap.transpose a b := by
  change (if a < tensor.rank ∧ b < tensor.rank then _ else _ : Except Error _).map onHeap =
    if a < tensor.rank ∧ b < tensor.rank then _ else _
  split
  · exact map_onHeap_permute ..
  · rfl

theorem map_onHeap_matmul [Zero α] [Add α] [Mul α] :
    (left.matmul right).map onHeap = left.onHeap.matmul right.onHeap := by
  unfold matmul
  rw [shape_onHeap, shape_onHeap]
  cases matrixSizes? left.shape right.shape with
  | none => rfl
  | some sizes => exact map_onHeap_bind fun count => map_onHeap_ofArray ..

end Tensor

end ShapeAssert
