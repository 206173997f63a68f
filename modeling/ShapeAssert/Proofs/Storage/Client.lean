import ShapeAssert.Program.Routine
import ShapeAssert.Proofs.Storage.Check

/-! Functions under check that know tensors only by the steps on them. Such a function takes steps one
after the other and may decide by what it has seen which to take next. It cannot tell what holds the
tensors, so a check of it over mapped memory goes like one on the heap. -/

namespace ShapeAssert

/-- A call of such a function. It takes steps on its inputs and on the tensors it has named, gives a
name to each new tensor, and sees of it the shape and the elements, or why there is none; and it drops
tensors again. In the end it fails or returns tensors by their names, and it keeps those of the names
that it wants to have in its next call. -/
inductive Client (κ ε α : Type) where
  | finish (result : Except ε (List String)) (kept : List String) (own : κ)
  | take (name : String) (step : Step α)
      (next : Except StepFailure (Tensor HeapStorage α) → Client κ ε α)
  | drop (name : String) (next : Client κ ε α)

/-- What such a function has between calls: a state of its own, the tensors it has kept by their names,
and what its steps draw on. -/
structure Memory (κ τ : Type) (S : Type → Type) (α : Type) where
  own : κ
  names : Names S α
  room : Room τ

namespace Client

variable {S : Type → Type} [Storage S] {κ τ ε α : Type} [Element α]

/-- The tensors that a call returns by their names. Names that no tensor has are left out. -/
def returned (names : Names S α) (result : Except ε (List String)) : Except ε (List (Tensor S α)) :=
  result.map fun outputs => outputs.filterMap fun output => names.lookup output

/-- What comes back from a call, and what the function is left with. -/
def run (backend : Backend S α) (source : RandomSource τ α) (inputs : List (Tensor S α)) :
    Client κ ε α → Names S α → Room τ → Except ε (Outputs (Tensor S α)) × Memory κ τ S α
  | finish result kept own, names, room =>
      ((returned (names ++ Routine.nameInputs inputs) result).map .ofList,
        ⟨own, names.filter (kept.contains ·.1), room⟩)
  | take name step next, names, room =>
      let (result, room) := step.run backend source (names ++ Routine.nameInputs inputs) room
      let names := match result with
        | .ok tensor => (name, tensor) :: names
        | .error _ => names
      run backend source inputs (next (result.map Tensor.onHeap)) names room
  | drop name next, names, room =>
      run backend source inputs next (names.filter (·.1 != name)) room

/-- The function that begins each call by its own state and by its inputs, which are named `x` with a
number. -/
def callable (client : κ → List (Tensor HeapStorage α) → Client κ ε α) (backend : Backend S α)
    (source : RandomSource τ α) : Callable (Memory κ τ S α) ε S α :=
  fun memory inputs =>
    (client memory.own (inputs.map Tensor.onHeap)).run backend source inputs memory.names memory.room

end Client

/-- What is kept on the heap is a copy of what is kept elsewhere. -/
structure Memory.Matches {κ τ α : Type} {S : Type → Type} [Storage S]
    (heap : Memory κ τ HeapStorage α) (memory : Memory κ τ S α) : Prop where
  own : heap.own = memory.own
  names : heap.names = memory.names.onHeap
  room : heap.room.Matches memory.room

variable {S : Type → Type} [Storage S] {σ κ τ ε α : Type}

theorem Names.filterMap_lookup_onHeap (names : Names S α) (references : List String) :
    references.filterMap (fun reference => names.onHeap.lookup reference) =
      (references.filterMap fun reference => names.lookup reference).map Tensor.onHeap := by
  rw [List.map_filterMap]
  exact congrArg (references.filterMap ·) (funext names.lookup_onHeap)

theorem Names.filter_onHeap (p : String → Bool) (names : Names S α) :
    names.onHeap.filter (p ·.1) = Names.onHeap (names.filter (p ·.1)) :=
  List.filter_map

theorem Routine.nameInputs_onHeap (names : Names S α) (inputs : List (Tensor S α)) :
    names.onHeap ++ nameInputs (inputs.map Tensor.onHeap) =
      Names.onHeap (names ++ nameInputs inputs) := by
  unfold nameInputs Names.onHeap
  rw [List.zipIdx_map, List.map_append, List.map_map, List.map_map]
  rfl

namespace Client

theorem returned_onHeap (names : Names S α) (result : Except ε (List String)) :
    (returned names.onHeap result).map Outputs.ofList =
      ((returned names result).map Outputs.ofList).map (·.map Tensor.onHeap) := by
  cases result with
  | error cause => rfl
  | ok outputs =>
      exact congrArg (Except.ok ∘ Outputs.ofList) (names.filterMap_lookup_onHeap outputs)

variable [Element α]

/-- By induction on the call: both runs take the same step, see the same of it, and so go on alike. -/
theorem run_onHeap {backend : Backend S α} (h : backend.Reliable) (source : RandomSource τ α)
    (inputs : List (Tensor S α)) (client : Client κ ε α) (names : Names S α) {heapRoom room : Room τ}
    (hroom : heapRoom.Matches room) :
    (client.run .heap source (inputs.map Tensor.onHeap) names.onHeap heapRoom).1 =
        (client.run backend source inputs names room).1.map (·.map Tensor.onHeap) ∧
      (client.run .heap source (inputs.map Tensor.onHeap) names.onHeap heapRoom).2.Matches
        (client.run backend source inputs names room).2 := by
  induction client generalizing names heapRoom room with
  | finish result kept own =>
      unfold run
      rw [Routine.nameInputs_onHeap, returned_onHeap, names.filter_onHeap]
      exact ⟨rfl, rfl, rfl, hroom⟩
  | take name step next ih =>
      obtain ⟨hresult, hleft⟩ :=
        step.run_onHeap h source (names ++ Routine.nameInputs inputs) hroom
      unfold run
      rw [Routine.nameInputs_onHeap]
      dsimp only
      rw [hresult]
      cases hstep : (step.run backend source (names ++ Routine.nameInputs inputs) room).1 with
      | error failure => exact ih _ names hleft
      | ok tensor => exact ih _ ((name, tensor) :: names) hleft
  | drop name next ih =>
      unfold run
      rw [names.filter_onHeap (· != name)]
      exact ih _ hroom

theorem callable_matches {backend : Backend S α} (h : backend.Reliable)
    (source : RandomSource τ α) (client : κ → List (Tensor HeapStorage α) → Client κ ε α) :
    Callable.Matches Memory.Matches (callable client .heap source) (callable client backend source) := by
  intro heapMemory memory inputs hmemory
  obtain ⟨heapOwn, heapNames, heapRoom⟩ := heapMemory
  obtain ⟨rfl, rfl, hroom⟩ := hmemory
  unfold callable
  dsimp only
  rw [Tensor.map_onHeap_heap]
  exact run_onHeap h source inputs _ _ hroom

end Client

variable [Element α]

/-- Over mapped memory, with files or without, programs and checks go as they do on the heap as long as
no file fails: each step of a program gives the same tensor or error, and a check makes the same calls,
ends alike and has drawn as much. -/
theorem mapped_storage_matches_heap {backend : Backend MappedStorage α}
    (hbackend : backend = .mapped ∨ backend = .files) (source : RandomSource σ α)
    {heapRoom room : Room σ} (hroom : heapRoom.Matches room) (clientSource : RandomSource τ α)
    (client : κ → List (Tensor HeapStorage α) → Client κ ε α)
    {heapMemory : Memory κ τ HeapStorage α} {memory : Memory κ τ MappedStorage α}
    (hmemory : heapMemory.Matches memory) :
    (∀ (number : Nat) (steps : List (Step α)) (names : Names MappedStorage α),
      (runSteps .heap source number steps names.onHeap heapRoom).1 =
          (runSteps backend source number steps names room).1.map (·.map Tensor.onHeap) ∧
        (runSteps .heap source number steps names.onHeap heapRoom).2.Matches
          (runSteps backend source number steps names room).2) ∧
      (∀ (config : Config) (pattern : Pattern) (constraints : Constraints),
        (Checker.tryCheck ⟨.heap, config⟩ source pattern constraints
            (Client.callable client .heap clientSource) ⟨heapRoom, heapMemory⟩).Matches Memory.Matches
          (Checker.tryCheck ⟨backend, config⟩ source pattern constraints
            (Client.callable client backend clientSource) ⟨room, memory⟩)) ∧
      ∀ (config : Config) (pattern : String) (constraints : List (String × ConstraintValue)),
        (Checker.tryTest ⟨.heap, config⟩ source pattern constraints
            (Client.callable client .heap clientSource) ⟨heapRoom, heapMemory⟩).Matches Memory.Matches
          (Checker.tryTest ⟨backend, config⟩ source pattern constraints
            (Client.callable client backend clientSource) ⟨room, memory⟩) := by
  have h : backend.Reliable := by
    rcases hbackend with rfl | rfl
    · exact Backend.reliable_mapped
    · exact Backend.reliable_files
  have hclient : Callable.Matches Memory.Matches (Client.callable client .heap clientSource)
      (Client.callable client backend clientSource) :=
    Client.callable_matches h clientSource client
  refine ⟨fun number steps names => ?_, fun config pattern constraints => ?_,
    fun config pattern constraints => ?_⟩
  · exact runSteps_onHeap h source number steps names hroom
  · exact Checker.tryCheck_onHeap h hclient config source pattern constraints ⟨hroom, hmemory⟩
  · exact Checker.tryTest_onHeap h hclient config source pattern constraints ⟨hroom, hmemory⟩

/-- A program over files with an empty tensor and a step that fails, and a check of a function that
transposes its input and counts its calls. The heap has a directory in which no file can be made. -/
theorem mapped_storage_matches_heap_with_files :
    let source := RandomSource.scripted (0 : Float)
    let room : Room (List Nat) := ⟨[], .empty⟩
    let heapRoom : Room (List Nat) := ⟨[], .missing⟩
    let steps : List (Step Float) := [.build [2, 3] .ones, .build [0, 5] .zeros,
      .compute (.permute "s0" [1, 0]), .compute (.matmul "s0" "s0")]
    let client (calls : Nat) (_ : List (Tensor HeapStorage Float)) : Client Nat String Float :=
      .take "y" (.compute (.transpose "x0" 0 1)) fun
        | .ok _ => .finish (.ok ["y"]) ["y"] (calls + 1)
        | .error failure => .finish (.error failure.message) [] calls
    let memory : Memory Nat (List Nat) MappedStorage Float := ⟨0, [], room⟩
    let heapMemory : Memory Nat (List Nat) HeapStorage Float := ⟨0, [], heapRoom⟩
    let results := (runSteps Backend.files source 0 steps [] room).1
    let report := Checker.tryTest ⟨.files, { fill := .ones, bound := 8 }⟩ source "ab -> ba" []
      (Client.callable client .files source) ⟨room, memory⟩
    (heapRoom.Matches room ∧ heapMemory.Matches memory) ∧
      ((runSteps Backend.files source 0 steps [] room).2.directory.files = [0] ∧
        (results.map fun result => result.toOption.map (·.shape)) =
          [some [2, 3], some [0, 5], some [3, 2], none]) ∧
      (report.outcome.toOption = some () ∧
        report.calls.map (fun call => call.directory.files) = [[0]]) ∧
      (runSteps .heap source 0 steps [] heapRoom).1 = results.map (·.map Tensor.onHeap) ∧
      (Checker.tryTest ⟨.heap, { fill := .ones, bound := 8 }⟩ source "ab -> ba" []
        (Client.callable client .heap source) ⟨heapRoom, heapMemory⟩).Matches Memory.Matches report := by
  intro source room heapRoom steps client memory heapMemory results report
  have hroom : heapRoom.Matches room := ⟨rfl, fun _ => rfl⟩
  have hmemory : heapMemory.Matches memory := ⟨rfl, rfl, hroom⟩
  obtain ⟨hprogram, -, hcheck⟩ :=
    mapped_storage_matches_heap (.inr rfl) source hroom source client hmemory
  refine ⟨⟨hroom, hmemory⟩, ⟨?_, ?_⟩, ⟨?_, ?_⟩, (hprogram 0 steps []).1,
    hcheck { fill := .ones, bound := 8 } "ab -> ba" []⟩
  all_goals decide +kernel

end ShapeAssert
