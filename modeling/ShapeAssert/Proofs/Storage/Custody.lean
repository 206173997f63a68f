import ShapeAssert.Proofs.Storage.Client
import ShapeAssert.Proofs.Storage.Ownership

/-! Checks over files in which every tensor has holders. The trials are those of any check, but all that
is held is given up one tensor after the other, and what the function keeps stays. The moments of a
check are recorded, so that what holds at each of them can be told. -/

namespace ShapeAssert

/-! ### Checks in progress -/

/-- A check in progress: the state of the source, the state of the function apart from its tensors, the
present moment, and the past ones, the latest first. -/
structure Course (σ κ α : Type) where
  random : σ
  own : κ
  now : Moment α
  past : List (Moment α)

/-- How trials over files ended, the calls made in order, and their course. -/
structure Ledger (σ κ ε α : Type) where
  outcome : Except (Failure ε) Unit
  calls : List (Call ε MappedStorage α)
  course : Course σ κ α

variable {σ κ τ ε α : Type}

namespace Course

def moments (course : Course σ κ α) : List (Moment α) :=
  course.now :: course.past

/-- Goes on to another moment. -/
def go (course : Course σ κ α) (moment : Moment α) : Course σ κ α :=
  { course with now := moment, past := course.moments }

/-- Gives up the tensors of some holders one after the other, those passed over before being kept. -/
def sweep (gone : Holder → Bool) (kept : List (Holder × Tensor MappedStorage α)) :
    List (Holder × Tensor MappedStorage α) → Course σ κ α → Course σ κ α
  | [], course => course
  | entry :: rest, course =>
      if gone entry.1 then
        sweep gone kept rest (course.go (course.now.giveUp entry.2 (kept ++ rest)))
      else sweep gone (kept ++ [entry]) rest course

/-- Gives up all tensors of some holders. -/
def release (gone : Holder → Bool) (course : Course σ κ α) : Course σ κ α :=
  sweep gone [] course.now.held course

/-- An input could not be generated. -/
def refuse (course : Course σ κ α) (room : Room σ) : Course σ κ α :=
  { course.go { course.now with directory := room.directory } with random := room.random }

/-- An input has been generated. -/
def receive (course : Course σ κ α) (tensor : Tensor MappedStorage α) (room : Room σ) :
    Course σ κ α :=
  { course.go (course.now.receive tensor room.directory) with random := room.random }

/-- More tensors are held. -/
def take (course : Course σ κ α) (entries : List (Holder × Tensor MappedStorage α)) :
    Course σ κ α :=
  course.go (course.now.take entries)

variable [Element α]

/-- Generates the inputs of a trial in order. If one fails, those generated before it are given up. -/
def buildInputs (source : RandomSource σ α) (fill : Fill) (binding : Binding) :
    List TensorFormula → Course σ κ α →
      Except Error (List (Tensor MappedStorage α)) × Course σ κ α
  | [], course => (.ok [], course)
  | formula :: formulas, course =>
      match formula.shape binding with
      | .error e => (.error e, course.release (· == .input))
      | .ok shape =>
          match Backend.files.build source shape fill ⟨course.random, course.now.directory⟩ with
          | (.error e, room) => (.error e, (course.refuse room).release (· == .input))
          | (.ok tensor, room) =>
              match buildInputs source fill binding formulas (course.receive tensor room) with
              | (.error e, course) => (.error e, course)
              | (.ok tensors, course) => (.ok (tensor :: tensors), course)

end Course

/-- The same names for tensors in mapped memory without files. -/
def Names.anonymous (names : Names HeapStorage α) : Names MappedStorage α :=
  names.map fun entry => (entry.1, { entry.2 with storage := .anonymous entry.2.data })

/-- Whether a holder is a name with some property. -/
def Holder.isName (p : String → Bool) : Holder → Bool
  | .name reference => p reference
  | .input | .output => false

/-- What the function has between two calls. Besides its tensors it has a state of its own and what its
steps draw on. -/
def Course.memory (course : Course σ (κ × Room τ) α) : Memory κ τ MappedStorage α :=
  ⟨course.own.1, course.now.names, course.own.2⟩

namespace Client

variable [Element α]

/-- A call in the course of a check. What the function generates itself has no file. What is returned is
held by the check, and what the function does not keep is given up. -/
def play (source : RandomSource τ α) (inputs : List (Tensor MappedStorage α)) :
    Client κ ε α → Room τ → Course σ (κ × Room τ) α →
      Except ε (Outputs (Tensor MappedStorage α)) × Course σ (κ × Room τ) α
  | finish result kept own, room, course =>
      let outputs := returned (course.now.names ++ Routine.nameInputs inputs) result
      let handed := course.take ((outputs.toOption.getD []).map (Holder.output, ·))
      (outputs.map .ofList,
        { handed.release (Holder.isName (!kept.contains ·)) with own := (own, room) })
  | take name step next, room, course =>
      let (result, room) :=
        step.run .mapped source (course.now.names ++ Routine.nameInputs inputs) room
      let course := match result with
        | .ok tensor => course.take [(.name name, tensor)]
        | .error _ => course
      play source inputs (next (result.map Tensor.onHeap)) room course
  | drop name next, room, course =>
      play source inputs next room (course.release (Holder.isName (· == name)))

end Client

namespace Course

variable [Element α]

/-- One trial. At its end the check gives up what was returned and then the inputs. -/
def trial (config : Config) (source : RandomSource σ α) (pattern : Pattern)
    (constraints : Constraints) (client : κ → List (Tensor HeapStorage α) → Client κ ε α)
    (clientSource : RandomSource τ α) (course : Course σ (κ × Room τ) α) :
    Ledger σ (κ × Room τ) ε α :=
  match Assignment.draw source pattern.inputs constraints config.bound course.random with
  | .error e => ⟨.error (.rejected e), [], course⟩
  | .ok (assignment, random) =>
      match buildInputs source config.fill assignment.lookup pattern.inputs.tensors
          { course with random } with
      | (.error e, course) => ⟨.error (.rejected e), [], course⟩
      | (.ok inputs, course) =>
          let call := client course.own.1 (inputs.map Tensor.onHeap)
          let (result, finished) := call.play clientSource inputs course.own.2 course
          { outcome := judge config.strict assignment pattern.outputs result
            calls := [⟨assignment, inputs, result, course.now.directory⟩]
            course := (finished.release (· == .output)).release (· == .input) }

/-- Runs up to the given number of trials and stops at the first that fails. -/
def trials (config : Config) (source : RandomSource σ α) (pattern : Pattern)
    (constraints : Constraints) (client : κ → List (Tensor HeapStorage α) → Client κ ε α)
    (clientSource : RandomSource τ α) :
    (depth : Nat) → Course σ (κ × Room τ) α → Ledger σ (κ × Room τ) ε α
  | 0, course => ⟨.ok (), [], course⟩
  | depth + 1, course =>
      let first := trial config source pattern constraints client clientSource course
      match first.outcome with
      | .error _ => first
      | .ok () =>
          let rest := trials config source pattern constraints client clientSource depth first.course
          { rest with calls := first.calls ++ rest.calls }

/-- A whole check of a function with the given memory. -/
def check (config : Config) (source : RandomSource σ α) (pattern : Pattern)
    (constraints : Constraints) (client : κ → List (Tensor HeapStorage α) → Client κ ε α)
    (clientSource : RandomSource τ α) (room : Room σ) (memory : Memory κ τ MappedStorage α) :
    Ledger σ (κ × Room τ) ε α :=
  trials config source pattern constraints client clientSource config.depth
    { random := Checker.start (⟨.files, config⟩ : Checker MappedStorage α) source room.random
      own := (memory.own, memory.room)
      now := .start room.directory memory.names
      past := [] }

end Course

end ShapeAssert
