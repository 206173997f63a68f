import Mathlib.Data.Set.Card
import ShapeAssert.Proofs.Check.Assignment

/-! When values can be drawn for the letters of a formula and what they are. Both depend on two
numbers: how many letters no constraint fixes, and how many primes lie below the bound. -/

namespace ShapeAssert

theorem pairwise_primes : primes.Pairwise (· < ·) := by
  decide

theorem mem_takeWhile_lt {numbers : List Nat} (h : numbers.Pairwise (· < ·)) {bound n : Nat} :
    n ∈ numbers.takeWhile (· < bound) ↔ n ∈ numbers ∧ n < bound := by
  induction numbers with
  | nil => simp
  | cons head rest ih =>
      obtain ⟨hhead, hrest⟩ := List.pairwise_cons.1 h
      by_cases hlt : head < bound
      · rw [List.takeWhile_cons_of_pos (by simpa using hlt), List.mem_cons, ih hrest, List.mem_cons]
        constructor
        · rintro (rfl | ⟨hmem, hn⟩)
          · exact ⟨.inl rfl, hlt⟩
          · exact ⟨.inr hmem, hn⟩
        · rintro ⟨rfl | hmem, hn⟩
          · exact .inl rfl
          · exact .inr ⟨hmem, hn⟩
      · rw [List.takeWhile_cons_of_neg (by simpa using hlt)]
        simp only [List.not_mem_nil, false_iff]
        rintro ⟨hmem, hn⟩
        rcases List.mem_cons.1 hmem with rfl | hmem
        · exact hlt hn
        · exact hlt ((hhead n hmem).trans hn)

theorem mem_primesBelow {bound p : Nat} : p ∈ primesBelow bound ↔ p ∈ primes ∧ p < bound :=
  mem_takeWhile_lt pairwise_primes

theorem ncard_primes_below (bound : Nat) :
    {p | p ∈ primes ∧ p < bound}.ncard = (primesBelow bound).length := by
  have hset : {p | p ∈ primes ∧ p < bound} = ↑(primesBelow bound).toFinset := by
    ext p
    simp [mem_primesBelow]
  rw [hset, Set.ncard_coe_finset, List.toFinset_card_of_nodup (nodup_primesBelow bound)]

namespace Formula

theorem mem_letters {formula : Formula} {c : Char} :
    c ∈ formula.letters ↔ ∃ tensor ∈ formula.tensors, c ∈ tensor.letters := by
  rw [letters, LetterSet.mem_ofList, List.mem_flatMap]
  rfl

end Formula

namespace Assignment

variable {σ α : Type} {source : RandomSource σ α} {formula : Formula} {constraints : Constraints}
  {bound : Nat} {assignment : Assignment}

theorem ncard_free_letters (formula : Formula) (constraints : Constraints) :
    {c | c ∈ formula.letters ∧ constraints.lookup c = none}.ncard =
      (freeLetters formula constraints).length := by
  have hset : {c | c ∈ formula.letters ∧ constraints.lookup c = none} =
      ↑(freeLetters formula constraints).toFinset := by
    ext c
    simp [mem_freeLetters]
  rw [hset, Set.ncard_coe_finset, List.toFinset_card_of_nodup nodup_freeLetters]

/-- The letters with a value are those of the formula and those of the constraints. -/
theorem Drawn.mem_keys (h : Drawn formula constraints bound assignment) {c : Char} :
    c ∈ assignment.keys ↔ c ∈ formula.letters ∨ c ∈ constraints.keys := by
  simp only [LetterMap.mem_keys, LetterMap.contains_eq_isSome_lookup]
  by_cases hc : c ∈ formula.letters
  · obtain ⟨value, hvalue⟩ := h.exists_lookup hc
    simp [hc, hvalue]
  · rw [h.others c hc]
    simp [hc]

/-- Drawing fails exactly if there are more letters without a constraint than primes below the bound,
and reports both numbers. Otherwise, whatever is drawn, exactly the letters of the formula and the
constrained letters have a value, a constraint is the value of its letter, and the other letters have
different primes below the bound. -/
theorem draw_gives_free_letters_distinct_primes (source : RandomSource σ α) (formula : Formula)
    (constraints : Constraints) (bound : Nat) (state : σ) :
    let free : Set Char :=
      {c | (∃ tensor ∈ formula.tensors, c ∈ tensor.letters) ∧ constraints.lookup c = none}
    let pool : Set Nat := {p | p ∈ primes ∧ p < bound}
    (∀ e, draw source formula constraints bound state = .error e ↔
      pool.ncard < free.ncard ∧ e = .insufficientPrimes free.ncard pool.ncard bound) ∧
    (free.ncard ≤ pool.ncard →
      ∃ assignment state', draw source formula constraints bound state = .ok (assignment, state')) ∧
    ∀ assignment state', draw source formula constraints bound state = .ok (assignment, state') →
      (∀ c, c ∈ assignment.keys ↔
        (∃ tensor ∈ formula.tensors, c ∈ tensor.letters) ∨ c ∈ constraints.keys) ∧
      (∀ c value, constraints.lookup c = some value → assignment.lookup c = some value) ∧
      (∀ c ∈ free, ∃ p ∈ pool, assignment.lookup c = some (p : Int)) ∧
      ∀ c ∈ free, ∀ d ∈ free, assignment.lookup c = assignment.lookup d → c = d := by
  intro free pool
  have hletters (c : Char) :
      (∃ tensor ∈ formula.tensors, c ∈ tensor.letters) ↔ c ∈ formula.letters :=
    Formula.mem_letters.symm
  have hfree_mem (c : Char) : c ∈ free ↔ c ∈ freeLetters formula constraints := by
    rw [mem_freeLetters, ← hletters]
    rfl
  have hfree : free.ncard = (freeLetters formula constraints).length := by
    rw [← ncard_free_letters]
    simp only [free, hletters]
  have hpool : pool.ncard = (primesBelow bound).length := ncard_primes_below bound
  rw [hfree, hpool]
  refine ⟨fun e => draw_eq_error, fun henough => ⟨_, _, draw_eq_ok.2 ⟨henough, rfl, rfl⟩⟩, ?_⟩
  intro assignment state' hdraw
  have hdrawn : Drawn formula constraints bound assignment := drawn_of_draw hdraw
  refine ⟨fun c => ?_, hdrawn.constrained, fun c hc => ?_, fun c hc d hd => ?_⟩
  · rw [hletters, hdrawn.mem_keys]
  · obtain ⟨prime, hprime, hvalue⟩ := hdrawn.free c ((hfree_mem c).1 hc)
    exact ⟨prime, mem_primesBelow.1 hprime, hvalue⟩
  · exact hdrawn.distinct c ((hfree_mem c).1 hc) d ((hfree_mem d).1 hd)

end Assignment

end ShapeAssert
