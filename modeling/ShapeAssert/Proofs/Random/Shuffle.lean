import Mathlib.Data.List.Permutation
import Mathlib.Data.Set.Card
import Mathlib.Order.Interval.Finset.Nat
import ShapeAssert.Random.Source

/-! Shuffles as lists of picks. What a shuffle does to its items is settled by the positions that its
source picks: one for each position from the last one down to one, and none after the position it is
swapped with. There are as many such lists as there are orders of the items, and if the items differ,
different lists lead to different orders. So every order comes from exactly one list of picks. -/

namespace ShapeAssert

namespace RandomSource

variable {σ α β : Type}

/-- The lists of picks for a shuffle from position `last` down to one: each pick is a position not
after the one it is swapped with. -/
inductive Picks : Nat → List Nat → Prop
  | done : Picks 0 []
  | pick {last position : Nat} {rest : List Nat} :
      position ≤ last + 1 → Picks last rest → Picks (last + 1) (position :: rest)

theorem picks_zero_iff {picks : List Nat} : Picks 0 picks ↔ picks = [] := by
  constructor
  · rintro ⟨⟩
    rfl
  · rintro rfl
    exact .done

theorem picks_succ_iff {last : Nat} {picks : List Nat} :
    Picks (last + 1) picks ↔
      ∃ position rest, picks = position :: rest ∧ position ≤ last + 1 ∧ Picks last rest := by
  constructor
  · rintro ⟨⟩
    exact ⟨_, _, rfl, ‹_›, ‹_›⟩
  · rintro ⟨position, rest, rfl, hposition, hrest⟩
    exact .pick hposition hrest

/-! ### The picks of a source -/

/-- The positions that a source picks in a shuffle from position `last` down to one. -/
def picked (source : RandomSource σ α) : Nat → σ → List Nat
  | 0, _ => []
  | last + 1, state =>
      let (position, state) := source.pick state (last + 1)
      position :: picked source last state

theorem picks_picked (source : RandomSource σ α) (last : Nat) (state : σ) :
    Picks last (source.picked last state) := by
  induction last generalizing state with
  | zero => exact .done
  | succ last ih => exact .pick (Nat.le_of_lt_succ (source.pick state (last + 1)).1.isLt) (ih _)

theorem shuffleFrom_scripted_cons {last position : Nat} (hposition : position ≤ last + 1)
    (items : Array β) (rest : List Nat) :
    (scripted ()).shuffleFrom (last + 1) items (position :: rest) =
      (scripted ()).shuffleFrom last (items.swapIfInBounds (last + 1) position) rest := by
  rw [shuffleFrom]
  dsimp only [scripted]
  rw [Nat.min_eq_left hposition]

/-- A source shuffles as the list of its picks does. -/
theorem shuffleFrom_picked (source : RandomSource σ α) (last : Nat) (items : Array β)
    (state : σ) :
    ((scripted ()).shuffleFrom last items (source.picked last state)).1 =
      (source.shuffleFrom last items state).1 := by
  induction last generalizing items state with
  | zero => rfl
  | succ last ih =>
      have hposition := Nat.le_of_lt_succ (source.pick state (last + 1)).1.isLt
      exact (congrArg Prod.fst (shuffleFrom_scripted_cons hposition items _)).trans (ih _ _)

/-- A shuffle uses up its list of picks. -/
theorem Picks.shuffleFrom_snd {last : Nat} {picks : List Nat} (h : Picks last picks)
    (items : Array β) : ((scripted ()).shuffleFrom last items picks).2 = [] := by
  induction h generalizing items with
  | done => rfl
  | pick hposition _ ih => rw [shuffleFrom_scripted_cons hposition, ih]

/-- The order that a list of picks puts items in. -/
def shuffled (items : Array β) (picks : List Nat) : List β :=
  ((scripted ()).shuffle items picks).1.toList

/-! ### Different picks, different orders -/

theorem getElem?_swapIfInBounds_of_ne (items : Array β) {i j k : Nat} (hi : i ≠ k) (hj : j ≠ k) :
    (items.swapIfInBounds i j)[k]? = items[k]? := by
  unfold Array.swapIfInBounds
  split
  · split
    · rw [Array.getElem?_swap, if_neg hj, if_neg hi]
    · rfl
  · rfl

/-- Items after the position that a shuffle starts from stay where they are. -/
theorem getElem?_shuffleFrom_of_lt (source : RandomSource σ α) {last i : Nat} (hi : last < i)
    (items : Array β) (state : σ) :
    (source.shuffleFrom last items state).1[i]? = items[i]? := by
  induction last generalizing items state with
  | zero => rfl
  | succ last ih =>
      have hposition := (source.pick state (last + 1)).1.isLt
      rw [shuffleFrom]
      exact (ih (by omega) _ _).trans (getElem?_swapIfInBounds_of_ne items (by omega) (by omega))

/-- The first pick names the item that ends up at the last position. -/
theorem getElem?_shuffleFrom_cons {last position : Nat} (hposition : position ≤ last + 1)
    {items : Array β} (hlast : last + 1 < items.size) (rest : List Nat) :
    ((scripted ()).shuffleFrom (last + 1) items (position :: rest)).1[last + 1]? =
      items[position]? := by
  have hbound : position < items.size := by omega
  rw [shuffleFrom_scripted_cons hposition, getElem?_shuffleFrom_of_lt _ (Nat.lt_succ_self last),
    Array.swapIfInBounds, dif_pos hlast, dif_pos hbound, Array.getElem?_swap,
    Array.getElem?_eq_getElem hbound]
  split
  · next heq => simp only [heq]
  · rw [if_pos rfl]

/-- If the items differ, the order they end up in tells every pick. -/
theorem Picks.eq_of_shuffleFrom_eq {last : Nat} {picks picks' : List Nat}
    (h : Picks last picks) (h' : Picks last picks') {items : Array β} (hnodup : items.toList.Nodup)
    (hlast : last ≤ items.size - 1)
    (heq : ((scripted ()).shuffleFrom last items picks).1 =
      ((scripted ()).shuffleFrom last items picks').1) : picks = picks' := by
  induction h generalizing items picks' with
  | done => exact (picks_zero_iff.1 h').symm
  | @pick last position rest hposition _ ih =>
      obtain ⟨position', rest', rfl, hposition', hrest'⟩ := picks_succ_iff.1 h'
      -- no later swap touches the last position, so its item tells the first pick
      have hplace : items[position]? = items[position']? := by
        rw [← getElem?_shuffleFrom_cons hposition (by omega) rest, heq,
          getElem?_shuffleFrom_cons hposition' (by omega) rest']
      obtain rfl : position = position' := by
        rw [← Array.getElem?_toList, ← Array.getElem?_toList] at hplace
        refine (List.getElem?_inj ?_ hnodup).1 hplace
        rw [Array.length_toList]
        omega
      rw [shuffleFrom_scripted_cons hposition, shuffleFrom_scripted_cons hposition] at heq
      have hswapped : (items.swapIfInBounds (last + 1) position).toList.Nodup :=
        (swapIfInBounds_perm items _ _).toList.nodup_iff.2 hnodup
      rw [ih hrest' hswapped (by rw [Array.size_swapIfInBounds]; omega) heq]

/-! ### As many picks as orders -/

/-- Every pick below the first one is free of the first one, so the numbers of choices multiply. -/
theorem ncard_picks (last : Nat) : {picks | Picks last picks}.ncard = (last + 1).factorial := by
  induction last with
  | zero =>
      have hset : {picks | Picks 0 picks} = {[]} := Set.ext fun _ => picks_zero_iff
      rw [hset, Set.ncard_singleton]
      rfl
  | succ last ih =>
      have hset : {picks | Picks (last + 1) picks} =
          (fun pair => pair.1 :: pair.2) '' Set.Iic (last + 1) ×ˢ {rest | Picks last rest} := by
        ext picks
        rw [Set.mem_ofPred_eq, picks_succ_iff]
        constructor
        · rintro ⟨position, rest, rfl, hposition, hrest⟩
          exact ⟨(position, rest), ⟨hposition, hrest⟩, rfl⟩
        · rintro ⟨⟨position, rest⟩, ⟨hposition, hrest⟩, rfl⟩
          exact ⟨position, rest, rfl, hposition, hrest⟩
      have hinjective : Function.Injective fun pair : Nat × List Nat => pair.1 :: pair.2 := by
        rintro ⟨position, rest⟩ ⟨position', rest'⟩ heq
        obtain ⟨rfl, rfl⟩ := List.cons.inj heq
        rfl
      have hpositions : (Set.Iic (last + 1)).ncard = last + 2 := by
        rw [← Finset.coe_Iic, Set.ncard_coe_finset, Nat.card_Iic]
      rw [hset, hinjective.injOn.ncard_image, Set.ncard_prod, ih, hpositions,
        ← Nat.factorial_succ]

theorem ncard_perm {items : List β} (hnodup : items.Nodup) :
    {order : List β | order.Perm items}.ncard = items.length.factorial := by
  classical
  have hset : {order : List β | order.Perm items} = ↑items.permutations.toFinset := by
    ext order
    simp
  rw [hset, Set.ncard_coe_finset,
    List.toFinset_card_of_nodup (List.nodup_permutations items hnodup), List.length_permutations]

/-- Every order of different items comes from exactly one list of picks. -/
theorem bijOn_shuffled {items : Array β} (hnodup : items.toList.Nodup) :
    Set.BijOn (shuffled items)
      {picks | Picks (items.size - 1) picks} {order : List β | order.Perm items.toList} := by
  have hmaps : Set.MapsTo (shuffled items)
      {picks | Picks (items.size - 1) picks} {order : List β | order.Perm items.toList} :=
    fun picks _ => ((scripted ()).shuffle_perm items picks).toList
  have hinjective : Set.InjOn (shuffled items) {picks | Picks (items.size - 1) picks} :=
    fun _ h _ h' heq => Picks.eq_of_shuffleFrom_eq h h' hnodup le_rfl (Array.toList_inj.1 heq)
  have hcount : {order : List β | order.Perm items.toList}.ncard =
      {picks | Picks (items.size - 1) picks}.ncard := by
    rw [ncard_perm hnodup, ncard_picks, Array.length_toList]
    cases items.size with
    | zero => rfl
    | succ last => rfl
  have hfinite : {order : List β | order.Perm items.toList}.Finite := by
    refine Set.finite_of_ncard_pos ?_
    rw [ncard_perm hnodup]
    exact Nat.factorial_pos _
  have himage := Set.eq_of_subset_of_ncard_le hmaps.image_subset
    (by rw [hinjective.ncard_image, hcount]) hfinite
  exact ⟨hmaps, hinjective, himage.symm.subset⟩

/-- As many lists of picks lead to an order with some property as there are such orders. -/
theorem ncard_picks_shuffled {items : Array β} (hnodup : items.toList.Nodup)
    (P : List β → Prop) :
    {picks | Picks (items.size - 1) picks ∧ P (shuffled items picks)}.ncard =
      {order : List β | order.Perm items.toList ∧ P order}.ncard := by
  have hbij := bijOn_shuffled hnodup
  refine Set.BijOn.ncard_eq (f := shuffled items)
    ⟨fun picks h => ⟨hbij.mapsTo h.1, h.2⟩, hbij.injOn.mono fun _ h => h.1, ?_⟩
  rintro order ⟨horder, hP⟩
  obtain ⟨picks, hpicks, rfl⟩ := hbij.surjOn horder
  exact ⟨picks, ⟨hpicks, hP⟩, rfl⟩

/-- The orders that start with given items are the orders of the other items. -/
theorem ncard_perm_of_prefix {start items : List β} (hnodup : items.Nodup)
    (hstart : start.Nodup) (hsubset : start ⊆ items) :
    {order : List β | order.Perm items ∧ start <+: order}.ncard =
      (items.length - start.length).factorial := by
  classical
  have hcount (a : β) (ha : a ∈ start) : start.count a ≤ items.count a :=
    (List.nodup_iff_count_le_one.1 hstart a).trans (List.count_pos_iff.2 (hsubset ha))
  obtain ⟨rest, hrest⟩ : ∃ rest, (start ++ rest).Perm items :=
    ⟨_, List.subperm_append_diff_self_of_count_le hcount⟩
  have hset : {order : List β | order.Perm items ∧ start <+: order} =
      (start ++ ·) '' {order : List β | order.Perm rest} := by
    ext order
    constructor
    · rintro ⟨horder, tail, rfl⟩
      exact ⟨tail, (List.perm_append_left_iff start).1 (horder.trans hrest.symm), rfl⟩
    · rintro ⟨tail, htail, rfl⟩
      exact ⟨((List.perm_append_left_iff start).2 htail).trans hrest, tail, rfl⟩
  have hlength : rest.length = items.length - start.length := by
    rw [← hrest.length_eq, List.length_append, Nat.add_sub_cancel_left]
  have hrestNodup : rest.Nodup := (List.nodup_append.1 (hrest.nodup_iff.2 hnodup)).2.1
  rw [hset, (List.append_right_injective start).injOn.ncard_image, ncard_perm hrestNodup, hlength]

end RandomSource

end ShapeAssert
