import ShapeAssert.Check.Checker
import ShapeAssert.Proofs.Storage.Program

/-! Checks over another storage. A function that treats tensors like their copies on the heap is called
with the same values and inputs, and the check ends alike, whatever holds the tensors. -/

namespace ShapeAssert

variable {S : Type → Type} [Storage S] {σ κ κ' ε α : Type}

def Outputs.map {β : Type} (f : α → β) (outputs : Outputs α) : Outputs β :=
  ⟨outputs.values.map f⟩

/-- What a call exchanges with the function, its tensors copied to the heap. -/
structure Exchange (ε α : Type) where
  assignment : Assignment
  inputs : List (Tensor HeapStorage α)
  result : Except ε (Outputs (Tensor HeapStorage α))

def Call.exchange (call : Call ε S α) : Exchange ε α :=
  ⟨call.assignment, call.inputs.map Tensor.onHeap, call.result.map (·.map Tensor.onHeap)⟩

/-- From states that are alike, a function on the heap makes of copies what the other one makes of the
tensors. -/
def Callable.Matches (alike : κ' → κ → Prop) (heap : Callable κ' ε HeapStorage α)
    (f : Callable κ ε S α) : Prop :=
  ∀ heapState state inputs, alike heapState state →
    (heap heapState (inputs.map Tensor.onHeap)).1 = (f state inputs).1.map (·.map Tensor.onHeap) ∧
      alike (heap heapState (inputs.map Tensor.onHeap)).2 (f state inputs).2

structure Session.Matches (alike : κ' → κ → Prop) (heap : Session σ κ') (session : Session σ κ) :
    Prop where
  room : heap.room.Matches session.room
  callable : alike heap.callable session.callable

/-- The copy of a call exchanges the same. -/
theorem Call.exchange_copy (assignment : Assignment) (inputs : List (Tensor S α))
    (result : Except ε (Outputs (Tensor S α))) (heapDirectory directory : Directory) :
    exchange ⟨assignment, inputs.map Tensor.onHeap, result.map (·.map Tensor.onHeap), heapDirectory⟩ =
      exchange ⟨assignment, inputs, result, directory⟩ := by
  have hresult : (result.map (·.map Tensor.onHeap)).map (·.map Tensor.onHeap) =
      result.map (·.map Tensor.onHeap) := by
    cases result with
    | error cause => rfl
    | ok outputs =>
        change Except.ok (Outputs.mk ((outputs.values.map Tensor.onHeap).map Tensor.onHeap)) = _
        rw [Tensor.map_onHeap_heap]
        rfl
  unfold exchange
  dsimp only
  rw [Tensor.map_onHeap_heap, hresult]

/-- Two checks ended alike, after the same exchanges and with as much drawn. -/
structure Report.Matches (alike : κ' → κ → Prop) (heap : Report σ κ' ε HeapStorage α)
    (report : Report σ κ ε S α) : Prop where
  outcome : heap.outcome = report.outcome
  calls : heap.calls.map Call.exchange = report.calls.map Call.exchange
  session : heap.session.Matches alike report.session

/-! ### Inputs -/

theorem Room.Matches.release {heapRoom room : Room σ} (h : heapRoom.Matches room)
    (copy : Tensor HeapStorage α) (tensor : Tensor S α) :
    (heapRoom.release copy).Matches (room.release tensor) :=
  ⟨h.random, h.faultless.release tensor.storage⟩

theorem Room.Matches.foldl_release {heapRoom room : Room σ} (h : heapRoom.Matches room)
    (tensors : List (Tensor S α)) :
    ((tensors.map Tensor.onHeap).foldl Room.release heapRoom).Matches
      (tensors.foldl Room.release room) := by
  induction tensors generalizing heapRoom room with
  | nil => exact h
  | cons tensor tensors ih => exact ih (h.release tensor.onHeap tensor)

variable [Element α] {backend : Backend S α}

/-- The inputs on the heap are copies of the inputs elsewhere. -/
theorem buildInputs_onHeap (h : backend.Reliable) (source : RandomSource σ α) (fill : Fill)
    (binding : Binding) (formulas : List TensorFormula) {heapRoom room : Room σ}
    (hroom : heapRoom.Matches room) :
    (buildInputs .heap source fill binding formulas heapRoom).1 =
        (buildInputs backend source fill binding formulas room).1.map (List.map Tensor.onHeap) ∧
      (buildInputs .heap source fill binding formulas heapRoom).2.Matches
        (buildInputs backend source fill binding formulas room).2 := by
  induction formulas generalizing heapRoom room with
  | nil => exact ⟨rfl, hroom⟩
  | cons formula formulas ih =>
      unfold buildInputs
      cases formula.shape binding with
      | error e => exact ⟨rfl, hroom⟩
      | ok shape =>
          obtain ⟨hresult, hbuilt⟩ := h.build source shape fill hroom
          dsimp only
          cases hcopy : Backend.heap.build source shape fill heapRoom with
          | mk copy heapBuilt =>
          cases hbuild : backend.build source shape fill room with
          | mk result built =>
          rw [hcopy, hbuild] at hresult hbuilt
          obtain rfl : copy = result.map Tensor.onHeap := hresult
          cases result with
          | error e => exact ⟨rfl, hbuilt⟩
          | ok tensor =>
              obtain ⟨hrest, hleft⟩ := ih hbuilt
              dsimp only [Except.map]
              cases hcopies : buildInputs .heap source fill binding formulas heapBuilt with
              | mk copies heapLeft =>
              cases hinputs : buildInputs backend source fill binding formulas built with
              | mk inputs left =>
              rw [hcopies, hinputs] at hrest hleft
              obtain rfl : copies = inputs.map (List.map Tensor.onHeap) := hrest
              cases inputs with
              | error e => exact ⟨rfl, hleft.release tensor.onHeap tensor⟩
              | ok tensors => exact ⟨rfl, hleft⟩

/-! ### Trials -/

omit [Element α] in
theorem judge_onHeap (strict : Bool) (assignment : Assignment) (formula : Formula)
    (result : Except ε (Outputs (Tensor S α))) :
    judge strict assignment formula (result.map (·.map Tensor.onHeap)) =
      judge strict assignment formula result := by
  cases result with
  | error cause => rfl
  | ok outputs =>
      change (formula.checkOutputs strict assignment
        ((outputs.values.map Tensor.onHeap).map (·.shape))).mapError _ = _
      rw [Tensor.map_shape_onHeap]
      rfl

variable {alike : κ' → κ → Prop} {heapCallable : Callable κ' ε HeapStorage α}
  {f : Callable κ ε S α}

theorem trial_onHeap (h : backend.Reliable) (hf : Callable.Matches alike heapCallable f)
    (config : Config) (source : RandomSource σ α) (pattern : Pattern) (constraints : Constraints)
    {heapSession : Session σ κ'} {session : Session σ κ} (hsession : heapSession.Matches alike session) :
    (trial .heap config source pattern constraints heapCallable heapSession).Matches alike
      (trial backend config source pattern constraints f session) := by
  unfold trial
  rw [hsession.room.random]
  cases Assignment.draw source pattern.inputs constraints config.bound session.room.random with
  | error e => exact ⟨rfl, rfl, hsession⟩
  | ok drawn =>
      -- the letters are drawn before anything is stored, so from the same state
      have hdrawn : Room.Matches ⟨drawn.2, heapSession.room.directory⟩
          ⟨drawn.2, session.room.directory⟩ := ⟨rfl, hsession.room.faultless⟩
      obtain ⟨hinputs, hroom⟩ := buildInputs_onHeap h source config.fill drawn.1.lookup
        pattern.inputs.tensors hdrawn
      dsimp only
      cases hcopies : buildInputs .heap source config.fill drawn.1.lookup pattern.inputs.tensors
        ⟨drawn.2, heapSession.room.directory⟩ with
      | mk copies heapRoom =>
      cases hbuilt : buildInputs backend source config.fill drawn.1.lookup pattern.inputs.tensors
        ⟨drawn.2, session.room.directory⟩ with
      | mk inputs room =>
      rw [hcopies, hbuilt] at hinputs hroom
      obtain rfl : copies = inputs.map (List.map Tensor.onHeap) := hinputs
      cases inputs with
      | error e => exact ⟨rfl, rfl, hroom, hsession.callable⟩
      | ok inputs =>
          obtain ⟨hresult, hcallable⟩ := hf _ _ inputs hsession.callable
          refine ⟨?_, ?_, hroom.foldl_release inputs, hcallable⟩
          · change judge _ _ _ (heapCallable _ _).1 = judge _ _ _ (f _ _).1
            rw [hresult, judge_onHeap]
          · change [Call.exchange ⟨_, _, (heapCallable _ _).1, _⟩] =
              [Call.exchange ⟨_, _, (f _ _).1, _⟩]
            rw [hresult, Call.exchange_copy]

/-- The trials of two checks pass or fail together, so the checks stop at the same one. -/
theorem trials_onHeap (h : backend.Reliable) (hf : Callable.Matches alike heapCallable f)
    (config : Config) (source : RandomSource σ α) (pattern : Pattern) (constraints : Constraints)
    (depth : Nat) {heapSession : Session σ κ'} {session : Session σ κ}
    (hsession : heapSession.Matches alike session) :
    (trials .heap config source pattern constraints heapCallable depth heapSession).Matches alike
      (trials backend config source pattern constraints f depth session) := by
  induction depth generalizing heapSession session with
  | zero => exact ⟨rfl, rfl, hsession⟩
  | succ depth ih =>
      have hfirst := trial_onHeap h hf config source pattern constraints hsession
      unfold trials
      dsimp only
      rw [hfirst.outcome]
      cases (trial backend config source pattern constraints f session).outcome with
      | error failure => exact hfirst
      | ok _ =>
          have hrest := ih hfirst.session
          refine ⟨hrest.outcome, ?_, hrest.session⟩
          change List.map _ (_ ++ _) = List.map _ (_ ++ _)
          rw [List.map_append, List.map_append, hfirst.calls, hrest.calls]

namespace Checker

theorem tryCheck_onHeap (h : backend.Reliable) (hf : Callable.Matches alike heapCallable f)
    (config : Config) (source : RandomSource σ α) (pattern : Pattern) (constraints : Constraints)
    {heapSession : Session σ κ'} {session : Session σ κ} (hsession : heapSession.Matches alike session) :
    (tryCheck ⟨.heap, config⟩ source pattern constraints heapCallable heapSession).Matches alike
      (tryCheck ⟨backend, config⟩ source pattern constraints f session) := by
  refine trials_onHeap h hf config source pattern constraints config.depth ⟨⟨?_, ?_⟩, ?_⟩
  · change start _ source heapSession.room.random = start _ source session.room.random
    rw [hsession.room.random]
    rfl
  · exact hsession.room.faultless
  · exact hsession.callable

theorem tryTest_onHeap (h : backend.Reliable) (hf : Callable.Matches alike heapCallable f)
    (config : Config) (source : RandomSource σ α) (pattern : String)
    (constraints : List (String × ConstraintValue)) {heapSession : Session σ κ'}
    {session : Session σ κ} (hsession : heapSession.Matches alike session) :
    (tryTest ⟨.heap, config⟩ source pattern constraints heapCallable heapSession).Matches alike
      (tryTest ⟨backend, config⟩ source pattern constraints f session) := by
  unfold tryTest
  cases Pattern.parse pattern with
  | error e => exact ⟨rfl, rfl, hsession⟩
  | ok pattern =>
      cases Constraints.validate constraints with
      | error e => exact ⟨rfl, rfl, hsession⟩
      | ok constraints => exact tryCheck_onHeap h hf config source pattern constraints hsession

end Checker

end ShapeAssert
