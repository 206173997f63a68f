import ShapeAssert.Fill

/-! The settings of a checker. -/

namespace ShapeAssert

/-- Settings shared by all trials of a check. -/
structure Config where
  /-- How input tensors are filled. -/
  fill : Fill := .random
  /-- The bound below which the primes for free letters lie. -/
  bound : Nat := 100
  /-- How many trials a check runs. -/
  depth : Nat := 1
  /-- The seed of the random source, if the draws are to be repeatable. -/
  seed : Option Nat := none
  /-- Whether an output letter without a value is an error. -/
  strict : Bool := false
  deriving BEq

namespace Config

instance : Inhabited Config := ⟨{}⟩

def text (config : Config) : String :=
  s!"fill={config.fill.text}, max_size={config.bound}, depth={config.depth}, " ++
    s!"strict={config.strict}" ++
    match config.seed with
    | none => ""
    | some seed => s!", seed={seed}"

end Config

end ShapeAssert
