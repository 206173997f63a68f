import ShapeAssert.Proofs.Check.Drawing
import ShapeAssert.Proofs.Random.Shuffle

/-! How often the letters of a formula get given values. A draw gives the letters without a
constraint their values if and only if the shuffle puts the primes that they are to have in front, in
the order of the letters. Each order of the primes comes from one list of picks, so every way to give
the letters different primes is drawn, and all of them by the same number of lists. -/

namespace ShapeAssert

open RandomSource (Picks scripted)

namespace Assignment

variable {σ α : Type} {source : RandomSource σ α} {formula : Formula} {constraints : Constraints}
  {bound : Nat}

/-- The shuffled primes from the front are the values of the free letters, in the order of both. -/
theorem lookup_overlay_eq_iff {numbers : List Nat} {f : Char → Nat}
    (henough : (freeLetters formula constraints).length ≤ numbers.length) :
    (∀ c ∈ freeLetters formula constraints,
        (overlay (freeLetters formula constraints) numbers constraints).lookup c =
          some (f c : Int)) ↔
      (freeLetters formula constraints).map f <+: numbers := by
  have hlength : (freeLetters formula constraints).length ≤ (numbers.map Int.ofNat).length := by
    rwa [List.length_map]
  have hplace (i : Nat) (c : Char) (hc : (freeLetters formula constraints)[i]? = some c) :
      (overlay (freeLetters formula constraints) numbers constraints).lookup c = some (f c : Int) ↔
        numbers[i]? = some (f c) := by
    rw [lookup_overlay, (mem_freeLetters.1 (List.mem_of_getElem? hc)).2, Option.none_or,
      LetterMap.lookup_zip nodup_freeLetters hlength]
    constructor
    · rintro ⟨j, hj, hvalue⟩
      have hi : i < (freeLetters formula constraints).length := (List.getElem?_eq_some_iff.1 hc).1
      obtain rfl : i = j := (List.getElem?_inj hi nodup_freeLetters).1 (hc.trans hj.symm)
      rw [List.getElem?_map, Option.map_eq_some_iff] at hvalue
      obtain ⟨prime, hprime, heq⟩ := hvalue
      rw [hprime, Int.ofNat.inj heq]
    · intro hvalue
      exact ⟨i, hc, by rw [List.getElem?_map, hvalue]; rfl⟩
  rw [List.prefix_iff_getElem?]
  constructor
  · intro h i hi
    have hi' : i < (freeLetters formula constraints).length := by rwa [List.length_map] at hi
    rw [List.getElem_map]
    exact (hplace i _ (List.getElem?_eq_getElem hi')).1 (h _ (List.getElem_mem hi'))
  · intro h c hc
    obtain ⟨i, hi, rfl⟩ := List.mem_iff_getElem.1 hc
    refine (hplace i _ (List.getElem?_eq_getElem hi)).2 ?_
    rw [h i (by rwa [List.length_map]), List.getElem_map]

/-- A list of picks is used up by a draw. -/
theorem draw_scripted_eq_ok {picks : List Nat} {assignment : Assignment}
    (hpicks : Picks ((primesBelow bound).length - 1) picks)
    (henough : (freeLetters formula constraints).length ≤ (primesBelow bound).length) :
    draw (scripted ()) formula constraints bound picks = .ok (assignment, []) ↔
      assignment = overlay (freeLetters formula constraints)
        (shuffledPrimes (scripted ()) bound picks) constraints := by
  rw [draw_eq_ok, and_iff_right henough]
  exact and_iff_left (hpicks.shuffleFrom_snd _).symm

/-- As many lists of picks give the free letters chosen values as there are orders of the other
primes. -/
theorem ncard_picks_draw {f : Char → Nat}
    (hprimes : ∀ c ∈ freeLetters formula constraints, f c ∈ primesBelow bound)
    (hdifferent : Set.InjOn f {c | c ∈ freeLetters formula constraints})
    (henough : (freeLetters formula constraints).length ≤ (primesBelow bound).length) :
    {picks | Picks ((primesBelow bound).length - 1) picks ∧ ∃ assignment,
        draw (scripted ()) formula constraints bound picks = .ok (assignment, []) ∧
          ∀ c ∈ freeLetters formula constraints, assignment.lookup c = some (f c : Int)}.ncard =
      ((primesBelow bound).length - (freeLetters formula constraints).length).factorial := by
  have hset : {picks | Picks ((primesBelow bound).length - 1) picks ∧ ∃ assignment,
        draw (scripted ()) formula constraints bound picks = .ok (assignment, []) ∧
          ∀ c ∈ freeLetters formula constraints, assignment.lookup c = some (f c : Int)} =
      {picks | Picks ((primesBelow bound).toArray.size - 1) picks ∧
        (freeLetters formula constraints).map f <+:
          RandomSource.shuffled (primesBelow bound).toArray picks} := by
    ext picks
    refine and_congr_right fun hpicks => ?_
    have hnumbers : (freeLetters formula constraints).length ≤
        (shuffledPrimes (scripted ()) bound picks).length := by
      rwa [(shuffledPrimes_perm picks).length_eq]
    simp only [draw_scripted_eq_ok hpicks henough, exists_eq_left]
    exact lookup_overlay_eq_iff hnumbers
  have hnodup : (primesBelow bound).toArray.toList.Nodup := nodup_primesBelow bound
  rw [hset]
  refine (RandomSource.ncard_picks_shuffled hnodup (List.IsPrefix _)).trans ?_
  refine (RandomSource.ncard_perm_of_prefix hnodup ?_ ?_).trans ?_
  · exact nodup_freeLetters.map_on hdifferent
  · intro p hp
    obtain ⟨c, hc, rfl⟩ := List.mem_map.1 hp
    exact hprimes c hc
  · rw [List.length_map]

/-- A source draws what the list of its picks draws. -/
theorem exists_draw_eq_scripted (source : RandomSource σ α) (state : σ)
    (henough : (freeLetters formula constraints).length ≤ (primesBelow bound).length) :
    ∃ assignment state', draw source formula constraints bound state = .ok (assignment, state') ∧
      draw (scripted ()) formula constraints bound
        (source.picked ((primesBelow bound).length - 1) state) = .ok (assignment, []) := by
  refine ⟨_, _, draw_eq_ok.2 ⟨henough, rfl, rfl⟩, ?_⟩
  rw [draw_scripted_eq_ok (source.picks_picked _ _) henough]
  have hpicked := source.shuffleFrom_picked ((primesBelow bound).length - 1)
    (primesBelow bound).toArray state
  exact congrArg (fun shuffled => overlay _ shuffled.toList constraints) hpicked.symm

/-- Every way to give the letters without a constraint different primes below the bound is drawn, and
all are equally likely. A shuffle of `n` primes picks one position for each of the positions from
`n - 1` down to one, and there are `n!` lists of such picks. Exactly `(n - k)!` of them give the `k`
letters the values they are to have. Every source draws what one of these lists does. -/
theorem draws_equally_likely (formula : Formula) (constraints : Constraints) (bound : Nat)
    (f : Char → Nat) :
    let free : Set Char :=
      {c | (∃ tensor ∈ formula.tensors, c ∈ tensor.letters) ∧ constraints.lookup c = none}
    let pool : Set Nat := {p | p ∈ primes ∧ p < bound}
    free.ncard ≤ pool.ncard → Set.MapsTo f free pool → Set.InjOn f free →
      {picks | Picks (pool.ncard - 1) picks}.ncard = pool.ncard.factorial ∧
      {picks | Picks (pool.ncard - 1) picks ∧ ∃ assignment,
        draw (scripted ()) formula constraints bound picks = .ok (assignment, []) ∧
          ∀ c ∈ free, assignment.lookup c = some (f c : Int)}.ncard =
        (pool.ncard - free.ncard).factorial ∧
      ∀ (σ α : Type) (source : RandomSource σ α) (state : σ),
        Picks (pool.ncard - 1) (source.picked (pool.ncard - 1) state) ∧
        ∃ assignment state',
          draw source formula constraints bound state = .ok (assignment, state') ∧
            draw (scripted ()) formula constraints bound
              (source.picked (pool.ncard - 1) state) = .ok (assignment, []) := by
  intro free pool
  have hfree_eq : free = {c | c ∈ freeLetters formula constraints} := by
    ext c
    rw [Set.mem_ofPred_eq, Set.mem_ofPred_eq, mem_freeLetters, Formula.mem_letters]
  have hfree : free.ncard = (freeLetters formula constraints).length := by
    rw [hfree_eq, ← ncard_free_letters]
    simp only [mem_freeLetters]
  have hpool : pool.ncard = (primesBelow bound).length := ncard_primes_below bound
  have hpool_mem (p : Nat) : p ∈ pool ↔ p ∈ primesBelow bound := mem_primesBelow.symm
  rw [hfree, hpool]
  intro henough hmaps hinjective
  refine ⟨?_, ?_, fun σ α source state => ⟨source.picks_picked _ _, ?_⟩⟩
  · rw [RandomSource.ncard_picks]
    cases (primesBelow bound).length with
    | zero => rfl
    | succ last => rfl
  · rw [hfree_eq] at hmaps hinjective ⊢
    exact ncard_picks_draw (fun c hc => (hpool_mem _).1 (hmaps hc)) hinjective henough
  · exact exists_draw_eq_scripted source state henough

/-- With `b` constrained and 5, 7 and 11 to draw from, two of the six lists of picks give 7 to `a`. -/
theorem draws_seven_in_two_of_six :
    let formula : Formula := ⟨"ab", [⟨.ofList [.letter 'a', .letter 'b'], "ab"⟩]⟩
    let constraints : Constraints := LetterMap.ofList [('b', 3)]
    Formula.parse "ab" = .ok formula ∧
      Constraints.validate [("b", .ofInt 3)] = .ok constraints ∧
      {picks | Picks 2 picks}.ncard = 6 ∧
      {picks | Picks 2 picks ∧ ∃ assignment,
        draw (scripted ()) formula constraints 12 picks = .ok (assignment, []) ∧
          assignment.lookup 'a' = some 7}.ncard = 2 := by
  intro formula constraints
  have hfree : {c | (∃ tensor ∈ formula.tensors, c ∈ tensor.letters) ∧
      constraints.lookup c = none} = {'a'} := by
    have hletters : freeLetters formula constraints = ['a'] := by decide
    ext c
    rw [Set.mem_ofPred_eq, ← Formula.mem_letters, ← mem_freeLetters, hletters]
    exact List.mem_singleton
  have hpool : {p | p ∈ primes ∧ p < 12}.ncard = 3 := ncard_primes_below 12
  have hlikely := draws_equally_likely formula constraints 12 fun _ => 7
  dsimp only at hlikely
  rw [hfree, hpool, Set.ncard_singleton] at hlikely
  have hseven : 7 ∈ {p | p ∈ primes ∧ p < 12} := ⟨by decide, by decide⟩
  obtain ⟨htotal, hgood, -⟩ := hlikely (by decide) (fun _ _ => hseven) (Set.injOn_singleton _ _)
  simp only [Set.mem_singleton_iff, forall_eq] at hgood
  exact ⟨by rfl, by rfl, htotal, hgood⟩

end Assignment

end ShapeAssert
