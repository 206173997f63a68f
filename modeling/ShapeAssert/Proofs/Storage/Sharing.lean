import ShapeAssert.Proofs.Program.Representation
import ShapeAssert.Proofs.Storage.Backing

/-! Which storage the result of an operation is over. A clone and a reshaped tensor are over the storage
of the tensor they come from and so share its file. Every other operation stores the elements of its
result anew, and storing needs no file. -/

namespace ShapeAssert

variable {S : Type → Type} [Storage S] {α : Type}

namespace Tensor

/-- If there is a result, it has no file. -/
def Fileless : Except Error (Tensor S α) → Prop
  | .ok tensor => tensor.file? = none
  | .error _ => True

theorem Fileless.of_ok {result : Except Error (Tensor S α)} (h : Fileless result)
    {tensor : Tensor S α} (hok : result = .ok tensor) : tensor.file? = none := by
  rw [hok] at h
  exact h

theorem Fileless.bind {β : Type} {x : Except Error β} {next : β → Except Error (Tensor S α)}
    (h : ∀ b, Fileless (next b)) : Fileless (x >>= next) := by
  cases x with
  | error e => trivial
  | ok b => exact h b

theorem fileless_ofStorage (data : Array α) (shape : Shape) :
    Fileless (ofStorage (Storage.ofArray data) shape : Except Error (Tensor S α)) := by
  cases h : (ofStorage (Storage.ofArray data) shape : Except Error (Tensor S α)) with
  | error e => trivial
  | ok tensor =>
      change tensor.file? = none
      obtain ⟨-, rfl⟩ := ofStorage_eq_ok_iff.1 h
      exact Storage.file?_ofArray data

theorem fileless_ofArray (data : Array α) (shape : Shape) :
    Fileless (ofArray data shape : Except Error (Tensor S α)) := by
  rw [ofArray_eq]
  exact fileless_ofStorage data shape

variable (tensor left right : Tensor S α)

theorem fileless_zipWith (f : α → α → α) : Fileless (zipWith f left right) := by
  rw [zipWith]
  split
  · exact fileless_ofArray ..
  · trivial

theorem fileless_scale [Mul α] (factor : α) : Fileless (tensor.scale factor) :=
  fileless_ofArray ..

theorem fileless_sumAxis [Zero α] [Add α] (axis : Nat) (keep : Bool) :
    Fileless (tensor.sumAxis axis keep) := by
  unfold sumAxis
  exact .bind fun _ => .bind fun _ => fileless_ofArray ..

theorem fileless_meanAxis [Zero α] [Add α] [Div α] [NatCast α] (axis : Nat) (keep : Bool) :
    Fileless (tensor.meanAxis axis keep) := by
  unfold meanAxis
  exact .bind fun _ => fileless_ofArray ..

theorem fileless_narrow (axis start length : Nat) : Fileless (tensor.narrow axis start length) := by
  unfold narrow
  refine .bind fun _ => ?_
  dsimp only
  split
  · trivial
  · exact .bind fun _ => fileless_ofArray ..

theorem fileless_concat (tensors : List (Tensor S α)) (axis : Nat) :
    Fileless (concat tensors axis) := by
  cases tensors with
  | nil => trivial
  | cons first rest =>
      unfold concat
      exact .bind fun _ => .bind fun _ => .bind fun _ => .bind fun _ => fileless_ofArray ..

theorem fileless_permute (order : List Nat) : Fileless (tensor.permute order) := by
  unfold permute
  exact .bind fun _ => fileless_ofArray ..

theorem fileless_transpose (a b : Nat) : Fileless (tensor.transpose a b) := by
  rw [transpose]
  split
  · exact fileless_permute ..
  · trivial

theorem fileless_matmul [Zero α] [Add α] [Mul α] : Fileless (left.matmul right) := by
  unfold matmul
  split
  · trivial
  · exact .bind fun _ => fileless_ofArray ..

end Tensor

/-- What is generated in mapped memory without files has no file. -/
theorem Backend.fileless_build_mapped [Element α] {τ : Type} (source : RandomSource τ α) (shape : Shape)
    (fill : Fill) (room : Room τ) : Tensor.Fileless (mapped.build source shape fill room).1 := by
  rw [build_eq]
  split
  · trivial
  split
  · trivial
  next data random hfill =>
  have hmade : Tensor.Fileless (Tensor.ofStorage (MappedStorage.anonymous data) shape) :=
    Tensor.fileless_ofStorage data shape
  dsimp only [mapped]
  split
  · trivial
  · next tensor htensor => exact hmade.of_ok htensor

namespace Operation

/-- The name of the tensor whose storage the result is over, for the operations that store nothing. -/
def shared? : Operation α → Option String
  | clone x | reshape x _ => some x
  | ofArray .. | ofStorage .. | elementwise .. | scale .. | reduce .. | narrow .. | concat ..
  | permute .. | transpose .. | matmul .. => none

variable [Element α] {names : Names S α} {operation : Operation α} {tensor : Tensor S α}

theorem storage_of_shared {x : String} (hshared : operation.shared? = some x)
    (h : operation.run names = .ok tensor) :
    ∃ origin, names.lookup x = some origin ∧ tensor.storage = origin.storage := by
  cases operation with
  | clone y =>
      obtain rfl := Option.some.inj hshared
      exact ⟨tensor, Names.get_eq_ok.1 h, rfl⟩
  | reshape y shape =>
      obtain rfl := Option.some.inj hshared
      obtain ⟨origin, horigin, hreshape⟩ := bind_eq_ok.1 h
      refine ⟨origin, Names.get_eq_ok.1 horigin, ?_⟩
      have hreshape := mapError_eq_ok.1 hreshape
      rw [Tensor.reshape] at hreshape
      split at hreshape
      · rw [← Except.ok.inj hreshape]
      · cases hreshape
  | _ => cases hshared

theorem file?_of_not_shared (hshared : operation.shared? = none)
    (h : operation.run names = .ok tensor) : tensor.file? = none := by
  cases operation with
  | clone y => cases hshared
  | reshape y shape => cases hshared
  | ofArray data shape => exact (Tensor.fileless_ofArray _ _).of_ok (mapError_eq_ok.1 h)
  | ofStorage data shape => exact (Tensor.fileless_ofStorage _ _).of_ok (mapError_eq_ok.1 h)
  | elementwise op x y =>
      obtain ⟨left, -, h⟩ := bind_eq_ok.1 h
      obtain ⟨right, -, h⟩ := bind_eq_ok.1 h
      cases op <;> exact (Tensor.fileless_zipWith _ _ _).of_ok (mapError_eq_ok.1 h)
  | scale x factor =>
      obtain ⟨origin, -, h⟩ := bind_eq_ok.1 h
      exact (origin.fileless_scale factor).of_ok (mapError_eq_ok.1 h)
  | reduce op x axis keep =>
      obtain ⟨origin, -, h⟩ := bind_eq_ok.1 h
      cases op with
      | sum => exact (origin.fileless_sumAxis axis keep).of_ok (mapError_eq_ok.1 h)
      | mean => exact (origin.fileless_meanAxis axis keep).of_ok (mapError_eq_ok.1 h)
  | narrow x axis start length =>
      obtain ⟨origin, -, h⟩ := bind_eq_ok.1 h
      exact (origin.fileless_narrow axis start length).of_ok (mapError_eq_ok.1 h)
  | concat xs axis =>
      obtain ⟨origins, -, h⟩ := bind_eq_ok.1 h
      exact (Tensor.fileless_concat origins axis).of_ok (mapError_eq_ok.1 h)
  | permute x order =>
      obtain ⟨origin, -, h⟩ := bind_eq_ok.1 h
      exact (origin.fileless_permute order).of_ok (mapError_eq_ok.1 h)
  | transpose x a b =>
      obtain ⟨origin, -, h⟩ := bind_eq_ok.1 h
      exact (origin.fileless_transpose a b).of_ok (mapError_eq_ok.1 h)
  | matmul x y =>
      obtain ⟨left, -, h⟩ := bind_eq_ok.1 h
      obtain ⟨right, -, h⟩ := bind_eq_ok.1 h
      exact (left.fileless_matmul right).of_ok (mapError_eq_ok.1 h)

end Operation

end ShapeAssert
