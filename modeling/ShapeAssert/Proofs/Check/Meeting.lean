import ShapeAssert.Proofs.Check.Drawing

/-! Different letters with the same value. Drawn primes are different from one another, but a
constraint may ask for a prime below the bound, and that prime stays among those that are drawn. So a
letter without a constraint can get the value of a constrained letter, and of no other: which letters
can meet depends on the constraints and the bound alone. -/

namespace ShapeAssert

namespace RandomSource

/-- The source whose shuffles exchange position `late` with position `early` and move nothing
else. -/
def exchanging (late early : Nat) : RandomSource Unit Unit where
  pick _ last :=
    (if last = late then ⟨min early last, Nat.lt_succ_of_le (Nat.min_le_right ..)⟩ else Fin.last last, ())
  sample _ := ((), ())
  ofSeed _ := ()

variable {β : Type} {late early : Nat}

theorem swapIfInBounds_self (items : Array β) (i : Nat) : items.swapIfInBounds i i = items := by
  refine Array.ext Array.size_swapIfInBounds fun k hk hk' => ?_
  rw [Array.getElem_swapIfInBounds]
  split
  · next hki => simp only [hki]
  · rfl

theorem shuffleFrom_exchanging (hle : early ≤ late) (last : Nat) (items : Array β) :
    (shuffleFrom (exchanging late early) last items ()).1 =
      if late ≤ last then items.swapIfInBounds late early else items := by
  induction last generalizing items with
  | zero =>
      rw [shuffleFrom]
      split
      · next hlate =>
          obtain rfl := Nat.le_zero.1 hlate
          obtain rfl := Nat.le_zero.1 hle
          exact (swapIfInBounds_self items 0).symm
      · rfl
  | succ last ih =>
      rw [shuffleFrom]
      dsimp only [exchanging]
      by_cases hlast : last + 1 = late
      · have hearly : min early (last + 1) = early := Nat.min_eq_left (by omega)
        rw [if_pos hlast]
        dsimp only
        rw [hearly]
        refine (ih _).trans ?_
        rw [if_neg (by omega), if_pos (by omega), hlast]
      · rw [if_neg hlast, Fin.val_last, swapIfInBounds_self]
        refine (ih _).trans ?_
        have hsame : late ≤ last ↔ late ≤ last + 1 := by omega
        simp only [hsame]

/-- A shuffle can move any item to any place. -/
theorem exists_getElem_shuffle {items : Array β} {i j : Nat} (hi : i < items.size)
    (hj : j < items.size) :
    ∃ source : RandomSource Unit Unit, (source.shuffle items ()).1[j]? = items[i]? := by
  refine ⟨exchanging (max i j) (min i j), ?_⟩
  have hlast : max i j ≤ items.size - 1 := by omega
  rw [shuffle, shuffleFrom_exchanging (Nat.le_trans (Nat.min_le_left i j) (Nat.le_max_left i j)),
    if_pos hlast]
  rcases Nat.le_total i j with hij | hij
  · rw [Nat.max_eq_right hij, Nat.min_eq_left hij]
    simp [Array.swapIfInBounds, hi, hj]
  · rw [Nat.max_eq_left hij, Nat.min_eq_right hij]
    simp [Array.swapIfInBounds, hi, hj]

end RandomSource

namespace Assignment

variable {formula : Formula} {constraints : Constraints} {bound : Nat} {assignment : Assignment}

/-- A letter with a drawn value has it in common with a constrained letter only. -/
theorem Drawn.constrained_of_meets (h : Drawn formula constraints bound assignment) {c d : Char}
    (hc : c ∈ freeLetters formula constraints) (hne : d ≠ c)
    (hmeet : assignment.lookup c = assignment.lookup d) :
    ∃ prime ∈ primesBelow bound, constraints.lookup d = some (prime : Int) := by
  obtain ⟨prime, hprime, hvalue⟩ := h.free c hc
  refine ⟨prime, hprime, ?_⟩
  by_cases hletter : d ∈ formula.letters
  · cases hfixed : constraints.lookup d with
    | some value => rw [← h.constrained d value hfixed, ← hmeet, hvalue]
    | none =>
        have hd : d ∈ freeLetters formula constraints := mem_freeLetters.2 ⟨hletter, hfixed⟩
        exact absurd (h.distinct c hc d hd hmeet).symm hne
  · rw [← h.others d hletter, ← hmeet, hvalue]

/-- Every prime below the bound can be drawn for every letter without a constraint. -/
theorem exists_draw_lookup {c : Char} {prime : Nat}
    (henough : (freeLetters formula constraints).length ≤ (primesBelow bound).length)
    (hc : c ∈ freeLetters formula constraints) (hprime : prime ∈ primesBelow bound) :
    ∃ (source : RandomSource Unit Unit) (assignment : Assignment),
      draw source formula constraints bound () = .ok (assignment, ()) ∧
        assignment.lookup c = some (prime : Int) := by
  obtain ⟨i, hi, rfl⟩ := List.mem_iff_getElem.1 hprime
  obtain ⟨j, hj, rfl⟩ := List.mem_iff_getElem.1 hc
  have hpick : i < (primesBelow bound).toArray.size := by simpa using hi
  have hplaced : j < (primesBelow bound).toArray.size := by
    simpa using Nat.lt_of_lt_of_le hj henough
  obtain ⟨source, hsource⟩ := RandomSource.exists_getElem_shuffle hpick hplaced
  refine ⟨source, _, draw_eq_ok.2 ⟨henough, rfl, rfl⟩, ?_⟩
  have hlength : (freeLetters formula constraints).length ≤
      ((shuffledPrimes source bound ()).map Int.ofNat).length := by
    rwa [List.length_map, (shuffledPrimes_perm ()).length_eq]
  have hplace : (shuffledPrimes source bound ())[j]? = (primesBelow bound)[i]? := by
    rw [shuffledPrimes, Array.getElem?_toList, hsource, List.getElem?_toArray]
  rw [lookup_overlay, (mem_freeLetters.1 hc).2, Option.none_or,
    LetterMap.lookup_zip nodup_freeLetters hlength]
  refine ⟨j, List.getElem?_eq_getElem hj, ?_⟩
  rw [List.getElem?_map, hplace, List.getElem?_eq_getElem hi]
  rfl

/-- A letter without a constraint can get the value of another letter exactly if the other one is
constrained to a prime below the bound. -/
theorem free_letter_meets_other_iff (formula : Formula) (constraints : Constraints) (bound : Nat)
    (c d : Char) :
    let free : Set Char :=
      {c | (∃ tensor ∈ formula.tensors, c ∈ tensor.letters) ∧ constraints.lookup c = none}
    let pool : Set Nat := {p | p ∈ primes ∧ p < bound}
    (∃ (σ α : Type) (source : RandomSource σ α) (state state' : σ) (assignment : Assignment),
        draw source formula constraints bound state = .ok (assignment, state') ∧
          c ∈ free ∧ d ≠ c ∧ assignment.lookup c = assignment.lookup d) ↔
      free.ncard ≤ pool.ncard ∧ c ∈ free ∧ ∃ p ∈ pool, constraints.lookup d = some (p : Int) := by
  intro free pool
  have hfree_eq : free = {c | c ∈ formula.letters ∧ constraints.lookup c = none} := by
    simp only [free, Formula.mem_letters]
  have hmem (c : Char) : c ∈ free ↔ c ∈ freeLetters formula constraints := by
    rw [hfree_eq, mem_freeLetters]
    rfl
  have hfree : free.ncard = (freeLetters formula constraints).length := by
    rw [hfree_eq, ncard_free_letters]
  have hpool : pool.ncard = (primesBelow bound).length := ncard_primes_below bound
  have hpool_mem (p : Nat) : p ∈ pool ↔ p ∈ primesBelow bound := mem_primesBelow.symm
  simp only [hmem, hfree, hpool, hpool_mem]
  constructor
  · rintro ⟨σ, α, source, state, state', assignment, hdraw, hc, hne, hmeet⟩
    exact ⟨(draw_eq_ok.1 hdraw).1, hc, (drawn_of_draw hdraw).constrained_of_meets hc hne hmeet⟩
  · rintro ⟨henough, hc, prime, hprime, hfixed⟩
    obtain ⟨source, assignment, hdraw, hvalue⟩ := exists_draw_lookup henough hc hprime
    have hne : d ≠ c := by
      rintro rfl
      rw [(mem_freeLetters.1 hc).2] at hfixed
      cases hfixed
    refine ⟨Unit, Unit, source, (), (), assignment, hdraw, hc, hne, ?_⟩
    rw [hvalue, (drawn_of_draw hdraw).constrained d prime hfixed]

/-- With `a` fixed to the prime 5 and 5 and 7 to draw from, a shuffle that leaves the primes in order
gives 5 to the free letter `b` as well, so that both axes of a tensor have the same extent. -/
theorem draw_repeats_constrained_prime :
    let formula : Formula := ⟨"ab", [⟨.ofList [.letter 'a', .letter 'b'], "ab"⟩]⟩
    let constraints : Constraints := LetterMap.ofList [('a', 5)]
    let assignment : Assignment := LetterMap.ofList [('a', 5), ('b', 5)]
    Formula.parse "ab" = .ok formula ∧
      Constraints.validate [("a", .ofInt 5)] = .ok constraints ∧
      draw (RandomSource.scripted ()) formula constraints 8 [] = .ok (assignment, []) ∧
      'b' ∈ formula.letters ∧ constraints.lookup 'b' = none ∧
      assignment.lookup 'b' = assignment.lookup 'a' ∧
      formula.tensors.map (·.shape assignment.lookup) = [.ok [5, 5]] := by
  intro formula constraints assignment
  exact ⟨by rfl, by rfl, by rfl, by decide, by rfl, by rfl, by rfl⟩

end Assignment

end ShapeAssert
