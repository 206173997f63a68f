/-! Random sources: a state from which positions and samples are drawn one after the other. All
random choices go through a source, so what is said of every source holds of every draw. -/

namespace ShapeAssert

/-- A random source with states in `σ` and samples in `α`. -/
structure RandomSource (σ α : Type) where
  /-- Draws a position from zero to the given one. -/
  pick : σ → (last : Nat) → Fin (last + 1) × σ
  /-- Draws a sample of the standard normal distribution. -/
  sample : σ → α × σ
  /-- The state a seed stands for. -/
  ofSeed : Nat → σ

namespace RandomSource

variable {σ α β : Type}

/-- Swaps each of the positions from `last` down to one with a drawn position not after it. -/
def shuffleFrom (source : RandomSource σ α) : Nat → Array β → σ → Array β × σ
  | 0, items, state => (items, state)
  | last + 1, items, state =>
      let (position, state) := source.pick state (last + 1)
      shuffleFrom source last (items.swapIfInBounds (last + 1) position) state

/-- Puts the items in a random order. That the positions are swapped from the last one down, each with
one draw, is an assumption about the random library; which positions are drawn is left open. -/
def shuffle (source : RandomSource σ α) (items : Array β) (state : σ) : Array β × σ :=
  source.shuffleFrom (items.size - 1) items state

/-- Draws samples in order. -/
def samples (source : RandomSource σ α) (count : Nat) (state : σ) : Array α × σ :=
  count.fold (fun _ _ (drawn, state) =>
    let (x, state) := source.sample state
    (drawn.push x, state)) (#[], state)

theorem size_samples (source : RandomSource σ α) (count : Nat) (state : σ) :
    (source.samples count state).1.size = count := by
  rw [samples]
  induction count with
  | zero => rfl
  | succ count ih =>
      rw [Nat.fold_succ]
      exact (Array.size_push _).trans (congrArg (· + 1) ih)

theorem swapIfInBounds_perm (items : Array β) (i j : Nat) :
    (items.swapIfInBounds i j).Perm items := by
  unfold Array.swapIfInBounds
  split
  · split
    · exact Array.swap_perm _ _
    · exact .refl _
  · exact .refl _

theorem shuffleFrom_perm (source : RandomSource σ α) (last : Nat) (items : Array β) (state : σ) :
    (source.shuffleFrom last items state).1.Perm items := by
  induction last generalizing items state with
  | zero => exact .refl _
  | succ last ih => exact (ih _ _).trans (swapIfInBounds_perm items _ _)

/-- A shuffle only changes the order. -/
theorem shuffle_perm (source : RandomSource σ α) (items : Array β) (state : σ) :
    (source.shuffle items state).1.Perm items :=
  source.shuffleFrom_perm _ items state

/-- The source that picks given positions in order and, when they are used up, the last one. -/
def scripted (sample : α) : RandomSource (List Nat) α where
  pick
    | [], last => (Fin.last last, [])
    | position :: rest, last => (⟨min position last, by omega⟩, rest)
  sample state := (sample, state)
  ofSeed _ := []

end RandomSource

end ShapeAssert
