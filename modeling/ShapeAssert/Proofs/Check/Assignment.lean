import Mathlib.Data.List.Nodup
import ShapeAssert.Check.Assignment
import ShapeAssert.Proofs.Letters

/-! The values that letters get in a trial. Whatever a shuffle does it only reorders the primes, so
letters without a constraint get different primes below the bound, and every other letter that has a
value has that of its constraint. -/

namespace ShapeAssert

theorem nodup_primes : primes.Nodup := by
  decide

theorem nodup_primesBelow (bound : Nat) : (primesBelow bound).Nodup :=
  nodup_primes.sublist (List.takeWhile_sublist _)

namespace Assignment

variable {σ α : Type} {source : RandomSource σ α} {formula : Formula} {constraints : Constraints}
  {bound : Nat} {assignment : Assignment}

theorem mem_freeLetters {c : Char} :
    c ∈ freeLetters formula constraints ↔ c ∈ formula.letters ∧ constraints.lookup c = none := by
  rw [freeLetters, List.mem_filter, LetterMap.contains_eq_isSome_lookup]
  simp [Membership.mem]

theorem nodup_freeLetters : (freeLetters formula constraints).Nodup :=
  formula.letters.nodup.filter _

/-- Whether values can be drawn depends on the formula, the constraints and the bound alone. -/
theorem draw_eq_error {state : σ} {e : Error} :
    draw source formula constraints bound state = .error e ↔
      (primesBelow bound).length < (freeLetters formula constraints).length ∧
        e = .insufficientPrimes (freeLetters formula constraints).length
          (primesBelow bound).length bound := by
  rw [draw]
  dsimp only
  split
  · next hfew => simp [hfew, eq_comm]
  · next hfew => simp [hfew]

/-- The primes below a bound as a shuffle in the given state leaves them. -/
def shuffledPrimes (source : RandomSource σ α) (bound : Nat) (state : σ) : List Nat :=
  (source.shuffle (primesBelow bound).toArray state).1.toList

theorem shuffledPrimes_perm (state : σ) :
    (shuffledPrimes source bound state).Perm (primesBelow bound) :=
  (source.shuffle_perm (primesBelow bound).toArray state).toList

theorem draw_eq_ok {state state' : σ} :
    draw source formula constraints bound state = .ok (assignment, state') ↔
      (freeLetters formula constraints).length ≤ (primesBelow bound).length ∧
        assignment = overlay (freeLetters formula constraints)
          (shuffledPrimes source bound state) constraints ∧
        state' = (source.shuffle (primesBelow bound).toArray state).2 := by
  rw [draw]
  dsimp only
  split
  · next hfew => simp [Nat.not_le.2 hfew]
  · next henough =>
    simp only [Except.ok.injEq, Prod.mk.injEq]
    rw [and_iff_right (Nat.not_lt.1 henough)]
    exact and_congr eq_comm eq_comm

/-- What holds of the values of a trial: constraints are kept, letters without a constraint have
different primes below the bound, and no other letter has a value. -/
structure Drawn (formula : Formula) (constraints : Constraints) (bound : Nat)
    (assignment : Assignment) : Prop where
  constrained : ∀ c value, constraints.lookup c = some value → assignment.lookup c = some value
  free : ∀ c ∈ freeLetters formula constraints,
    ∃ prime ∈ primesBelow bound, assignment.lookup c = some (prime : Int)
  distinct : ∀ c ∈ freeLetters formula constraints, ∀ d ∈ freeLetters formula constraints,
    assignment.lookup c = assignment.lookup d → c = d
  others : ∀ c, c ∉ formula.letters → assignment.lookup c = constraints.lookup c

theorem lookup_overlay (letters : List Char) (numbers : List Nat) (constraints : Constraints)
    (c : Char) :
    (overlay letters numbers constraints).lookup c = (constraints.lookup c).or
      ((LetterMap.ofList (letters.zip (numbers.map Int.ofNat))).lookup c) :=
  LetterMap.lookup_insertMany_entries _ _ _

theorem drawn_overlay {numbers : List Nat} (hnumbers : numbers.Perm (primesBelow bound))
    (henough : (freeLetters formula constraints).length ≤ (primesBelow bound).length) :
    Drawn formula constraints bound
      (overlay (freeLetters formula constraints) numbers constraints) := by
  have hlength : (freeLetters formula constraints).length ≤ (numbers.map Int.ofNat).length := by
    rwa [List.length_map, hnumbers.length_eq]
  have hvalues : (numbers.map Int.ofNat).Nodup :=
    (hnumbers.nodup_iff.2 (nodup_primesBelow bound)).map fun _ _ => Int.ofNat.inj
  have hlookup (c : Char) := LetterMap.exists_lookup_zip nodup_freeLetters hlength (c := c)
  have hoverlay (c : Char) (hc : c ∈ freeLetters formula constraints) :
      (overlay (freeLetters formula constraints) numbers constraints).lookup c =
        (LetterMap.ofList ((freeLetters formula constraints).zip (numbers.map Int.ofNat))).lookup
          c := by
    rw [lookup_overlay, (mem_freeLetters.1 hc).2, Option.none_or]
  refine ⟨fun c value hvalue => ?_, fun c hc => ?_, fun c hc d hd heq => ?_, fun c hc => ?_⟩
  · rw [lookup_overlay, hvalue, Option.some_or]
  · obtain ⟨value, hmem, hvalue⟩ := (hlookup c).2 hc
    obtain ⟨prime, hprime, rfl⟩ := List.mem_map.1 hmem
    exact ⟨prime, hnumbers.mem_iff.1 hprime, (hoverlay c hc).trans hvalue⟩
  · obtain ⟨value, -, hvalue⟩ := (hlookup c).2 hc
    rw [hoverlay c hc, hoverlay d hd, hvalue] at heq
    exact LetterMap.eq_of_lookup_zip nodup_freeLetters hlength hvalues hvalue heq.symm
  · rw [lookup_overlay]
    cases hnone : (LetterMap.ofList
        ((freeLetters formula constraints).zip (numbers.map Int.ofNat))).lookup c with
    | none => rw [Option.or_none]
    | some value =>
        rw [LetterMap.lookup_zip nodup_freeLetters hlength] at hnone
        obtain ⟨i, hi, -⟩ := hnone
        exact absurd (mem_freeLetters.1 (List.mem_of_getElem? hi)).1 hc

theorem drawn_of_draw {state state' : σ}
    (h : draw source formula constraints bound state = .ok (assignment, state')) :
    Drawn formula constraints bound assignment := by
  obtain ⟨henough, rfl, -⟩ := draw_eq_ok.1 h
  exact drawn_overlay (shuffledPrimes_perm state) henough

/-- Every letter of the formula has a value. -/
theorem Drawn.exists_lookup (h : Drawn formula constraints bound assignment) {c : Char}
    (hc : c ∈ formula.letters) : ∃ value, assignment.lookup c = some value := by
  cases hvalue : constraints.lookup c with
  | some value => exact ⟨value, h.constrained c value hvalue⟩
  | none =>
      obtain ⟨prime, -, hprime⟩ := h.free c (mem_freeLetters.2 ⟨hc, hvalue⟩)
      exact ⟨prime, hprime⟩

/-! ### Without constraints -/

namespace Drawn

variable (h : Drawn formula ∅ bound assignment) {c d : Char} {value : Int}
include h

theorem mem_letters (hc : assignment.lookup c = some value) : c ∈ formula.letters := by
  by_contra hout
  rw [h.others c hout, LetterMap.lookup_empty] at hc
  cases hc

/-- A value tells which letter has it. -/
theorem lookup_eq_iff (hd : assignment.lookup d = some value) :
    assignment.lookup c = some value ↔ d = c := by
  refine ⟨fun hc => ?_, fun heq => heq ▸ hd⟩
  have hfree {e : Char} (he : assignment.lookup e = some value) : e ∈ freeLetters formula ∅ :=
    mem_freeLetters.2 ⟨h.mem_letters he, LetterMap.lookup_empty e⟩
  exact h.distinct d (hfree hd) c (hfree hc) (hd.trans hc.symm)

end Drawn

end Assignment

end ShapeAssert
