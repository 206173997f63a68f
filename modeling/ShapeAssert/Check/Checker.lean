import ShapeAssert.Check.Trial

/-! Checkers: a backend with settings. A check takes a pattern and constraints, either as text and
pairs or already read, and a function, which may or may not fail. -/

namespace ShapeAssert

structure Checker (S : Type → Type) (α : Type) where
  backend : Backend S α
  config : Config := {}

namespace Checker

variable {S : Type → Type} {α : Type}

def withFill (checker : Checker S α) (fill : Fill) : Checker S α :=
  { checker with config := { checker.config with fill } }

def withBound (checker : Checker S α) (bound : Nat) : Checker S α :=
  { checker with config := { checker.config with bound } }

def withDepth (checker : Checker S α) (depth : Nat) : Checker S α :=
  { checker with config := { checker.config with depth } }

/-- Makes the draws repeatable. -/
def withSeed (checker : Checker S α) (seed : Nat) : Checker S α :=
  { checker with config := { checker.config with seed := some seed } }

def withStrict (checker : Checker S α) (strict : Bool) : Checker S α :=
  { checker with config := { checker.config with strict } }

def withConfig (checker : Checker S α) (config : Config) : Checker S α :=
  { checker with config }

def text (checker : Checker S α) : String :=
  s!"DimChecker(backend={checker.backend.name}, {checker.config.text})"

variable [Storage S] {σ κ ε : Type} [Element α]

/-- The state of the source at the start of a check: that of the seed, or the one given. -/
def start (checker : Checker S α) (source : RandomSource σ α) (unseeded : σ) : σ :=
  match checker.config.seed with
  | some seed => source.ofSeed seed
  | none => unseeded

/-- Checks a function that may fail against a pattern already read. -/
def tryCheck (checker : Checker S α) (source : RandomSource σ α) (pattern : Pattern)
    (constraints : Constraints) (f : Callable κ ε S α) (session : Session σ κ) :
    Report σ κ ε S α :=
  trials checker.backend checker.config source pattern constraints f checker.config.depth
    { session with
      room := { session.room with random := checker.start source session.room.random } }

/-- Reads the pattern, then accepts the constraints, and then checks a function that may fail.
Before both are accepted nothing is called. -/
def tryTest (checker : Checker S α) (source : RandomSource σ α) (pattern : String)
    (constraints : List (String × ConstraintValue)) (f : Callable κ ε S α)
    (session : Session σ κ) : Report σ κ ε S α :=
  match Pattern.parse pattern with
  | .error e => ⟨.error (.rejected e), [], session⟩
  | .ok pattern =>
      match Constraints.validate constraints with
      | .error e => ⟨.error (.rejected e), [], session⟩
      | .ok constraints => checker.tryCheck source pattern constraints f session

/-- A function that cannot fail, as one that may. -/
def infallible (f : κ → List (Tensor S α) → Outputs (Tensor S α) × κ) : Callable κ Empty S α :=
  fun state inputs =>
    let (outputs, state) := f state inputs
    (.ok outputs, state)

/-- Checks a function that cannot fail against a pattern already read. -/
def check (checker : Checker S α) (source : RandomSource σ α) (pattern : Pattern)
    (constraints : Constraints) (f : κ → List (Tensor S α) → Outputs (Tensor S α) × κ)
    (session : Session σ κ) : Report σ κ Empty S α :=
  checker.tryCheck source pattern constraints (infallible f) session

/-- Reads the pattern, accepts the constraints and checks a function that cannot fail. -/
def test (checker : Checker S α) (source : RandomSource σ α) (pattern : String)
    (constraints : List (String × ConstraintValue))
    (f : κ → List (Tensor S α) → Outputs (Tensor S α) × κ) (session : Session σ κ) :
    Report σ κ Empty S α :=
  checker.tryTest source pattern constraints (infallible f) session

end Checker

end ShapeAssert
