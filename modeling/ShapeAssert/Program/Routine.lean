import ShapeAssert.Check.Trial
import ShapeAssert.Program.Basic

/-! Routines: functions under check that are given by a tensor program. Their inputs are named `x`
with a number, and they count their calls from zero, so a step or the outputs may differ on one
call. -/

namespace ShapeAssert

structure Routine (α : Type) where
  /-- The steps, each with the only call on which it runs, if there is one. -/
  steps : List (Option Nat × Step α)
  /-- The names of the tensors returned. -/
  outputs : List String
  /-- A call with the names of the tensors returned on it instead. -/
  instead : Option (Nat × List String) := none

/-- The state of a routine: the number of the next call and what its steps draw on. -/
structure RoutineState (σ : Type) where
  call : Nat
  room : Room σ

namespace Routine

variable {S : Type → Type} [Storage S] {σ α : Type} [Element α]

/-- Names the inputs. -/
def nameInputs (inputs : List (Tensor S α)) : Names S α :=
  inputs.zipIdx.map fun (tensor, number) => (Names.numbered "x" number, tensor)

/-- Runs the steps of one call until one fails. A step meant for another call hands its operand on
unchanged. -/
def runCall (backend : Backend S α) (source : RandomSource σ α) (call : Nat) :
    (number : Nat) → List (Option Nat × Step α) → Names S α → Room σ →
      Except StepFailure (Names S α) × Room σ
  | _, [], names, room => (.ok names, room)
  | number, (only, step) :: steps, names, room =>
      let resume (tensor : Tensor S α) :=
        runCall backend source call (number + 1) steps
          ((Names.numbered "s" number, tensor) :: names)
      if only.all (· == call) then
        match step.run backend source names room with
        | (.error failure, room) => (.error failure, room)
        | (.ok tensor, room) => resume tensor room
      else
        match step.operand?.map names.get with
        | none => runCall backend source call (number + 1) steps names room
        | some (.error failure) => (.error failure, room)
        | some (.ok tensor) => resume tensor room

/-- The names of the tensors returned on a call. -/
def returned (routine : Routine α) (call : Nat) : List String :=
  match routine.instead with
  | some (special, names) => if special = call then names else routine.outputs
  | none => routine.outputs

/-- The function a routine stands for. -/
def callable (routine : Routine α) (backend : Backend S α) (source : RandomSource σ α) :
    Callable (RoutineState σ) StepFailure S α :=
  fun state inputs =>
    let (names, room) :=
      runCall backend source state.call 0 routine.steps (nameInputs inputs) state.room
    let result := do
      let names ← names
      let values ← (routine.returned state.call).mapM names.get
      .ok (Outputs.ofList values)
    (result, ⟨state.call + 1, room⟩)

/-- The function a routine stands for where it must not fail: it then returns nothing. -/
def total (routine : Routine α) (backend : Backend S α) (source : RandomSource σ α)
    (state : RoutineState σ) (inputs : List (Tensor S α)) :
    Outputs (Tensor S α) × RoutineState σ :=
  let (result, state) := routine.callable backend source state inputs
  match result with
  | .ok outputs => (outputs, state)
  | .error _ => (.ofList [], state)

end Routine

end ShapeAssert
