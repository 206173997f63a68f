import ShapeAssert.Proofs.Sequence
import ShapeAssert.Proofs.Storage.Copy

/-! Programs over another storage. Where no file fails, a backend stores what it is given, so a program
run over it goes step by step like the same program on the heap: copies of the tensors of one run are
the tensors of the other. -/

namespace ShapeAssert

variable {S : Type → Type} [Storage S] {σ α : Type}

/-! ### Directories in which nothing fails -/

namespace Directory

/-- No file that is going to be created fails. -/
def Faultless (directory : Directory) : Prop :=
  ∀ name, directory.faults name = none

theorem Faultless.create {directory : Directory} (h : directory.Faultless) :
    directory.create = (.ok directory.next, directory.add) := by
  unfold Directory.create
  rw [h]

theorem Faultless.release {directory : Directory} (h : directory.Faultless) (storage : S α) :
    (directory.release storage).Faultless := by
  unfold Directory.release
  split <;> exact h

end Directory

/-- The rooms of a run on the heap and of a run that may use files: what is drawn next is the same, and
no file fails. -/
structure Room.Matches (heap room : Room σ) : Prop where
  random : heap.random = room.random
  faultless : room.directory.Faultless

namespace Backend

/-- Where nothing fails, what is stored is there to be read. -/
def Reliable (backend : Backend S α) : Prop :=
  ∀ data directory, directory.Faultless → ∃ storage directory',
    backend.store data directory = (.ok storage, directory') ∧
      Storage.elements storage = data ∧ directory'.Faultless

theorem reliable_mapped : (mapped : Backend MappedStorage α).Reliable :=
  fun data directory h =>
    ⟨.anonymous data, directory, rfl, MappedStorage.elements_ofMap data none, h⟩

theorem reliable_files : (files : Backend MappedStorage α).Reliable := by
  intro data directory h
  change ∃ storage directory', MappedStorage.inDirectory data directory = (.ok storage, directory') ∧ _
  unfold MappedStorage.inDirectory
  split
  · exact ⟨.anonymous data, directory, rfl, MappedStorage.elements_ofMap data none, h⟩
  · rw [h.create]
    exact ⟨.ofMap data (some directory.next), directory.add, rfl, MappedStorage.elements_ofMap data _, h⟩

variable [Element α]

/-- A generated tensor has the same copy on the heap, and as much has been drawn for it. -/
theorem Reliable.build {backend : Backend S α} (h : backend.Reliable) (source : RandomSource σ α)
    (shape : Shape) (fill : Fill) {heapRoom room : Room σ} (hroom : heapRoom.Matches room) :
    (heap.build source shape fill heapRoom).1 =
        (backend.build source shape fill room).1.map Tensor.onHeap ∧
      (heap.build source shape fill heapRoom).2.Matches (backend.build source shape fill room).2 := by
  rw [build_eq, build_eq, hroom.random]
  cases shape.elementCount with
  | error e => exact ⟨rfl, hroom⟩
  | ok count =>
      dsimp only
      cases fill.generate source count room.random with
      | error e => exact ⟨rfl, hroom⟩
      | ok drawn =>
          obtain ⟨storage, directory, hstore, helements, hdirectory⟩ :=
            h drawn.1 room.directory hroom.faultless
          have hheap : heap.store drawn.1 heapRoom.directory = (.ok ⟨drawn.1⟩, heapRoom.directory) :=
            rfl
          have hcopy := Tensor.map_onHeap_ofStorage storage shape
          rw [helements] at hcopy
          dsimp only
          rw [hstore, hheap]
          dsimp only
          rw [← hcopy]
          cases Tensor.ofStorage storage shape with
          | error e => exact ⟨rfl, rfl, hdirectory.release storage⟩
          | ok tensor => exact ⟨rfl, rfl, hdirectory⟩

end Backend

/-! ### Steps -/

theorem map_mapError {β γ ε ζ : Type} (x : Except ε β) (f : ε → ζ) (g : β → γ) :
    (x.mapError f).map g = (x.map g).mapError f := by
  cases x <;> rfl

namespace Names

/-- The same names for copies on the heap. -/
def onHeap (names : Names S α) : Names HeapStorage α :=
  names.map fun entry => (entry.1, entry.2.onHeap)

theorem lookup_onHeap (names : Names S α) (reference : String) :
    names.onHeap.lookup reference = (names.lookup reference).map Tensor.onHeap := by
  induction names with
  | nil => rfl
  | cons entry names ih =>
      change List.lookup reference ((entry.1, entry.2.onHeap) :: onHeap names) = _
      rw [List.lookup_cons, List.lookup_cons, ih]
      cases reference == entry.1 <;> rfl

theorem get_onHeap (names : Names S α) (reference : String) :
    names.onHeap.get reference = (names.get reference).map Tensor.onHeap := by
  unfold get
  rw [lookup_onHeap]
  cases names.lookup reference <;> rfl

/-- Using the tensor of a name. -/
theorem bind_get_onHeap (names : Names S α) (reference : String)
    {f : Tensor S α → Except Error (Tensor S α)}
    {g : Tensor HeapStorage α → Except Error (Tensor HeapStorage α)}
    (h : ∀ tensor, (f tensor).map Tensor.onHeap = g tensor.onHeap) :
    (names.onHeap.get reference >>= fun tensor => (g tensor).mapError .error) =
      (names.get reference >>= fun tensor => (f tensor).mapError .error).map Tensor.onHeap := by
  rw [get_onHeap]
  cases names.get reference with
  | error failure => rfl
  | ok tensor =>
      change (g tensor.onHeap).mapError _ = ((f tensor).mapError _).map _
      rw [map_mapError, h]

/-- Using the tensors of two names. -/
theorem bind_get_pair_onHeap (names : Names S α) (first second : String)
    {f : Tensor S α → Tensor S α → Except Error (Tensor S α)}
    {g : Tensor HeapStorage α → Tensor HeapStorage α → Except Error (Tensor HeapStorage α)}
    (h : ∀ left right, (f left right).map Tensor.onHeap = g left.onHeap right.onHeap) :
    (names.onHeap.get first >>= fun left => names.onHeap.get second >>= fun right =>
        (g left right).mapError .error) =
      (names.get first >>= fun left => names.get second >>= fun right =>
        (f left right).mapError .error).map Tensor.onHeap := by
  rw [get_onHeap names first]
  cases names.get first with
  | error failure => rfl
  | ok left => exact names.bind_get_onHeap second fun right => h left right

theorem mapM_get_onHeap (names : Names S α) (references : List String) :
    references.mapM names.onHeap.get = (references.mapM names.get).map (List.map Tensor.onHeap) := by
  induction references with
  | nil => rfl
  | cons reference references ih =>
      rw [List.mapM_cons, List.mapM_cons, ih, get_onHeap]
      cases names.get reference with
      | error failure => rfl
      | ok tensor => cases references.mapM names.get <;> rfl

/-- Using the tensors of a list of names. -/
theorem bind_mapM_get_onHeap (names : Names S α) (references : List String)
    {f : List (Tensor S α) → Except Error (Tensor S α)}
    {g : List (Tensor HeapStorage α) → Except Error (Tensor HeapStorage α)}
    (h : ∀ tensors, (f tensors).map Tensor.onHeap = g (tensors.map Tensor.onHeap)) :
    (references.mapM names.onHeap.get >>= fun tensors => (g tensors).mapError .error) =
      (references.mapM names.get >>= fun tensors => (f tensors).mapError .error).map
        Tensor.onHeap := by
  rw [mapM_get_onHeap]
  cases references.mapM names.get with
  | error failure => rfl
  | ok tensors =>
      change (g (tensors.map Tensor.onHeap)).mapError _ = ((f tensors).mapError _).map _
      rw [map_mapError, h]

end Names

variable [Element α]

theorem Operation.run_onHeap (names : Names S α) (operation : Operation α) :
    operation.run names.onHeap = (operation.run names).map Tensor.onHeap := by
  cases operation with
  | ofArray data shape =>
      unfold run
      rw [map_mapError, Tensor.map_onHeap_ofArray]
  | ofStorage data shape =>
      unfold run
      rw [map_mapError, Tensor.map_onHeap_ofStorage, Storage.elements_ofArray]
      rfl
  | clone x => exact names.get_onHeap x
  | reshape x shape => exact names.bind_get_onHeap x fun x => x.map_onHeap_reshape shape
  | elementwise op x y =>
      cases op with
      | add => exact names.bind_get_pair_onHeap x y fun x y => x.map_onHeap_zipWith y (· + ·)
      | sub => exact names.bind_get_pair_onHeap x y fun x y => x.map_onHeap_zipWith y (· - ·)
      | mul => exact names.bind_get_pair_onHeap x y fun x y => x.map_onHeap_zipWith y (· * ·)
  | scale x factor => exact names.bind_get_onHeap x fun x => x.map_onHeap_scale factor
  | reduce op x axis keep =>
      cases op with
      | sum => exact names.bind_get_onHeap x fun x => x.map_onHeap_sumAxis axis keep
      | mean => exact names.bind_get_onHeap x fun x => x.map_onHeap_meanAxis axis keep
  | narrow x axis start length =>
      exact names.bind_get_onHeap x fun x => x.map_onHeap_narrow axis start length
  | concat xs axis =>
      exact names.bind_mapM_get_onHeap xs fun tensors => Tensor.map_onHeap_concat tensors axis
  | permute x order => exact names.bind_get_onHeap x fun x => x.map_onHeap_permute order
  | transpose x a b => exact names.bind_get_onHeap x fun x => x.map_onHeap_transpose a b
  | matmul x y => exact names.bind_get_pair_onHeap x y fun x y => x.map_onHeap_matmul y

variable {backend : Backend S α}

theorem Step.run_onHeap (h : backend.Reliable) (source : RandomSource σ α) (names : Names S α)
    {heapRoom room : Room σ} (hroom : heapRoom.Matches room) (step : Step α) :
    (step.run .heap source names.onHeap heapRoom).1 =
        (step.run backend source names room).1.map Tensor.onHeap ∧
      (step.run .heap source names.onHeap heapRoom).2.Matches
        (step.run backend source names room).2 := by
  cases step with
  | build shape fill =>
      obtain ⟨hresult, hleft⟩ := h.build source shape fill hroom
      refine ⟨?_, hleft⟩
      change ((Backend.heap.build source shape fill heapRoom).1).mapError _ =
        ((backend.build source shape fill room).1.mapError _).map _
      rw [hresult, map_mapError]
  | compute operation => exact ⟨operation.run_onHeap names, hroom⟩
  | fail failure => exact ⟨rfl, hroom⟩

/-- A run on the heap goes step by step like a run over another storage. -/
theorem runSteps_onHeap (h : backend.Reliable) (source : RandomSource σ α) (number : Nat)
    (steps : List (Step α)) (names : Names S α) {heapRoom room : Room σ}
    (hroom : heapRoom.Matches room) :
    (runSteps .heap source number steps names.onHeap heapRoom).1 =
        (runSteps backend source number steps names room).1.map (·.map Tensor.onHeap) ∧
      (runSteps .heap source number steps names.onHeap heapRoom).2.Matches
        (runSteps backend source number steps names room).2 := by
  induction steps generalizing number names heapRoom room with
  | nil => exact ⟨rfl, hroom⟩
  | cons step steps ih =>
      obtain ⟨hresult, hleft⟩ := step.run_onHeap h source names hroom
      unfold runSteps
      dsimp only
      rw [hresult]
      cases hstep : (step.run backend source names room).1 with
      | error failure =>
          obtain ⟨hresults, hend⟩ := ih (number + 1) names hleft
          exact ⟨congrArg _ hresults, hend⟩
      | ok tensor =>
          obtain ⟨hresults, hend⟩ := ih (number + 1) ((Names.numbered "s" number, tensor) :: names) hleft
          exact ⟨congrArg _ hresults, hend⟩

end ShapeAssert
