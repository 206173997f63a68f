import ShapeAssert.Check.Backend
import ShapeAssert.Check.Config
import ShapeAssert.Check.Outputs
import ShapeAssert.Formula.Pattern

/-! The trials of a check. A trial draws values for the letters, generates the inputs, calls the
function and compares the shapes of what it returns with the pattern. Trials follow one another
until one fails; what they draw on is threaded through them. -/

namespace ShapeAssert

/-- Why a check fails: the function itself failed, or something was wrong around it. -/
inductive Failure (ε : Type) where
  | callable (cause : ε)
  | rejected (cause : Error)

def Failure.message {ε : Type} (text : ε → String) : Failure ε → String
  | callable cause => s!"Callable failed: {text cause}"
  | rejected cause => cause.message

/-- A function under check. It has a state of its own and may fail. -/
abbrev Callable (κ ε : Type) (S : Type → Type) (α : Type) :=
  κ → List (Tensor S α) → Except ε (Outputs (Tensor S α)) × κ

/-- One call of the function: the values of the letters, the inputs, what came back, and the
directory at that moment. -/
structure Call (ε : Type) (S : Type → Type) (α : Type) where
  assignment : Assignment
  inputs : List (Tensor S α)
  result : Except ε (Outputs (Tensor S α))
  directory : Directory

/-- What is threaded through the trials. -/
structure Session (σ κ : Type) where
  room : Room σ
  callable : κ

/-- How trials ended, the calls made in order, and what was left. -/
structure Report (σ κ ε : Type) (S : Type → Type) (α : Type) where
  outcome : Except (Failure ε) Unit
  calls : List (Call ε S α)
  session : Session σ κ

variable {S : Type → Type} [Storage S] {σ κ ε α : Type} [Element α]

/-- Generates the inputs of a trial in order. If one fails, those generated before it are given
up. -/
def buildInputs (backend : Backend S α) (source : RandomSource σ α) (fill : Fill)
    (binding : Binding) : List TensorFormula → Room σ →
      Except Error (List (Tensor S α)) × Room σ
  | [], room => (.ok [], room)
  | formula :: formulas, room =>
      match formula.shape binding with
      | .error e => (.error e, room)
      | .ok shape =>
          match backend.build source shape fill room with
          | (.error e, room) => (.error e, room)
          | (.ok tensor, room) =>
              match buildInputs backend source fill binding formulas room with
              | (.error e, room) => (.error e, room.release tensor)
              | (.ok tensors, room) => (.ok (tensor :: tensors), room)

/-- Judges what a call returned. -/
def judge (strict : Bool) (assignment : Assignment) (formula : Formula)
    (result : Except ε (Outputs (Tensor S α))) : Except (Failure ε) Unit :=
  match result with
  | .error cause => .error (.callable cause)
  | .ok outputs =>
      (formula.checkOutputs strict assignment (outputs.values.map (·.shape))).mapError .rejected

/-- One trial. Its inputs are given up at its end, and their files with them, even if the function has
kept a clone or a reshaped copy of one. A trial does not know who else holds a storage, so where
functions keep tensors the files have to be counted by their holders. -/
def trial (backend : Backend S α) (config : Config) (source : RandomSource σ α)
    (pattern : Pattern) (constraints : Constraints) (f : Callable κ ε S α)
    (session : Session σ κ) : Report σ κ ε S α :=
  match Assignment.draw source pattern.inputs constraints config.bound session.room.random with
  | .error e => ⟨.error (.rejected e), [], session⟩
  | .ok (assignment, random) =>
      match buildInputs backend source config.fill assignment.lookup pattern.inputs.tensors
          ⟨random, session.room.directory⟩ with
      | (.error e, room) => ⟨.error (.rejected e), [], { session with room }⟩
      | (.ok inputs, room) =>
          let (result, callable) := f session.callable inputs
          { outcome := judge config.strict assignment pattern.outputs result
            calls := [⟨assignment, inputs, result, room.directory⟩]
            session := ⟨inputs.foldl Room.release room, callable⟩ }

/-- Runs up to the given number of trials and stops at the first that fails. -/
def trials (backend : Backend S α) (config : Config) (source : RandomSource σ α)
    (pattern : Pattern) (constraints : Constraints) (f : Callable κ ε S α) :
    (depth : Nat) → Session σ κ → Report σ κ ε S α
  | 0, session => ⟨.ok (), [], session⟩
  | depth + 1, session =>
      let first := trial backend config source pattern constraints f session
      match first.outcome with
      | .error _ => first
      | .ok () =>
          let rest := trials backend config source pattern constraints f depth first.session
          { rest with calls := first.calls ++ rest.calls }

end ShapeAssert
