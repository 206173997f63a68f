import Mathlib.Data.List.Forall2

/-! Computations that stop at the first failure. Success of a sequence says that each of its steps
succeeds; failure names the first step that fails, and with what. -/

namespace ShapeAssert

variable {α β ε ζ : Type}

/-- Whether a computation gives a certain result can be decided even where failures cannot be told
apart. -/
instance decidableEqOk [DecidableEq α] (x : Except ε α) (a : α) : Decidable (x = .ok a) :=
  match x with
  | .ok b => decidable_of_iff (b = a) ⟨congrArg Except.ok, Except.ok.inj⟩
  | .error _ => isFalse nofun

theorem bind_eq_ok {x : Except ε α} {next : α → Except ε β} {b : β} :
    x >>= next = .ok b ↔ ∃ a, x = .ok a ∧ next a = .ok b := by
  cases x with
  | error e => simp [bind, Except.bind]
  | ok a => simp [bind, Except.bind]

theorem bind_eq_error {x : Except ε α} {next : α → Except ε β} {e : ε} :
    x >>= next = .error e ↔ x = .error e ∨ ∃ a, x = .ok a ∧ next a = .error e := by
  cases x with
  | error e' => simp [bind, Except.bind]
  | ok a => simp [bind, Except.bind]

theorem mapError_eq_ok {f : ε → ζ} {x : Except ε α} {a : α} :
    x.mapError f = .ok a ↔ x = .ok a := by
  cases x with
  | error e =>
      constructor
      · intro h
        cases h
      · intro h
        cases h
  | ok b =>
      constructor
      · intro h
        rw [Except.ok.inj h]
      · intro h
        rw [Except.ok.inj h]
        rfl

theorem mapError_eq_error {f : ε → ζ} {x : Except ε α} {e : ζ} :
    x.mapError f = .error e ↔ ∃ e', x = .error e' ∧ f e' = e := by
  cases x with
  | error e' =>
      constructor
      · intro h
        exact ⟨e', rfl, Except.error.inj h⟩
      · rintro ⟨_, heq, rfl⟩
        rw [Except.error.inj heq]
        rfl
  | ok b =>
      constructor
      · intro h
        cases h
      · rintro ⟨_, h, -⟩
        cases h

theorem map_eq_ok {f : α → β} {x : Except ε α} {b : β} :
    x.map f = .ok b ↔ ∃ a, x = .ok a ∧ f a = b := by
  cases x <;> simp [Except.map]

theorem map_eq_error {f : α → β} {x : Except ε α} {e : ε} : x.map f = .error e ↔ x = .error e := by
  cases x <;> simp [Except.map]

theorem mapM_eq_ok {f : α → Except ε β} {xs : List α} {ys : List β} :
    xs.mapM f = .ok ys ↔ List.Forall₂ (fun x y => f x = .ok y) xs ys := by
  induction xs generalizing ys with
  | nil => simp [pure, Except.pure, eq_comm]
  | cons x xs ih =>
      simp only [List.mapM_cons, bind_eq_ok, ih, pure, Except.pure, Except.ok.injEq,
        List.forall₂_cons_left_iff]
      constructor
      · rintro ⟨y, hy, ys, hys, rfl⟩
        exact ⟨y, ys, hy, hys, rfl⟩
      · rintro ⟨y, ys, hy, hys, rfl⟩
        exact ⟨y, hy, ys, hys, rfl⟩

/-- Where a step succeeds only on what one of its results is written as, a sequence succeeds only on a
list of such results. -/
theorem mapM_eq_ok_of_written {f : α → Except ε β} {write : β → α} {good : β → Prop}
    (h : ∀ x y, f x = .ok y ↔ x = write y ∧ good y) {xs : List α} {ys : List β} :
    xs.mapM f = .ok ys ↔ xs = ys.map write ∧ ∀ y ∈ ys, good y := by
  simp only [mapM_eq_ok, h]
  induction ys generalizing xs with
  | nil => simp
  | cons y ys ih =>
      simp only [List.forall₂_cons_right_iff, ih, List.map_cons, List.forall_mem_cons]
      constructor
      · rintro ⟨_, _, ⟨rfl, hy⟩, ⟨rfl, hys⟩, rfl⟩
        exact ⟨rfl, hy, hys⟩
      · rintro ⟨rfl, hy, hys⟩
        exact ⟨_, _, ⟨rfl, hy⟩, ⟨rfl, hys⟩, rfl⟩

/-- Computations that all succeed give the list of their results. -/
theorem mapM_eq_some_map {f : α → Option β} {g : α → β} {xs : List α}
    (h : ∀ x ∈ xs, f x = some (g x)) : xs.mapM f = some (xs.map g) := by
  induction xs with
  | nil => rfl
  | cons x xs ih =>
      obtain ⟨hx, hxs⟩ := List.forall_mem_cons.1 h
      rw [List.mapM_cons, hx, ih hxs, List.map_cons]
      rfl

theorem exists_of_mem_forall₂ {R : α → β → Prop} {xs : List α} {ys : List β} {y : β}
    (h : List.Forall₂ R xs ys) (hy : y ∈ ys) : ∃ x ∈ xs, R x y := by
  induction h with
  | nil => cases hy
  | cons hx _ ih =>
      rcases List.mem_cons.1 hy with rfl | hy
      · exact ⟨_, List.mem_cons_self, hx⟩
      · obtain ⟨x, hmem, hx⟩ := ih hy
        exact ⟨x, List.mem_cons_of_mem _ hmem, hx⟩

theorem exists_of_mem_mapM {f : α → Except ε β} {xs : List α} {ys : List β} {y : β}
    (h : xs.mapM f = .ok ys) (hy : y ∈ ys) : ∃ x ∈ xs, f x = .ok y :=
  exists_of_mem_forall₂ (R := fun x y => f x = .ok y) (mapM_eq_ok.1 h) hy

theorem exists_ok_of_mapM {f : α → Except ε β} {xs : List α} {ys : List β} {x : α}
    (h : xs.mapM f = .ok ys) (hx : x ∈ xs) : ∃ y, f x = .ok y := by
  obtain ⟨y, -, hy⟩ := exists_of_mem_forall₂ (mapM_eq_ok.1 h).flip hx
  exact ⟨y, hy⟩

/-- The ways to single out an element of a list: the first one, or one of the others. -/
theorem exists_split_cons {x : α} {xs : List α} {P : List α → α → Prop} :
    (∃ before y after, x :: xs = before ++ y :: after ∧ P before y) ↔
      P [] x ∨ ∃ before y after, xs = before ++ y :: after ∧ P (x :: before) y := by
  constructor
  · rintro ⟨_ | ⟨_, before⟩, y, after, heq, hP⟩
    · obtain ⟨rfl, -⟩ := List.cons.inj heq
      exact .inl hP
    · obtain ⟨rfl, rfl⟩ := List.cons.inj heq
      exact .inr ⟨before, y, after, rfl, hP⟩
  · rintro (hP | ⟨before, y, after, rfl, hP⟩)
    · exact ⟨[], x, xs, rfl, hP⟩
    · exact ⟨x :: before, y, after, rfl, hP⟩

/-- The first element that does not pass, all those before it passing. -/
def FirstFailing (pass : α → Prop) (xs : List α) (x : α) : Prop :=
  ∃ before after, xs = before ++ x :: after ∧ (∀ y ∈ before, pass y) ∧ ¬pass x

namespace FirstFailing

variable {pass : α → Prop} {xs ys : List α} {x y : α}

theorem head (hx : ¬pass x) : FirstFailing pass (x :: xs) x :=
  ⟨[], xs, rfl, by simp, hx⟩

theorem append_right (h : FirstFailing pass xs x) (ys : List α) :
    FirstFailing pass (xs ++ ys) x := by
  obtain ⟨before, after, rfl, hbefore, hx⟩ := h
  exact ⟨before, after ++ ys, by simp, hbefore, hx⟩

theorem append_left (h : FirstFailing pass ys x) (hxs : ∀ y ∈ xs, pass y) :
    FirstFailing pass (xs ++ ys) x := by
  obtain ⟨before, after, rfl, hbefore, hx⟩ := h
  exact ⟨xs ++ before, after, by simp, List.forall_mem_append.2 ⟨hxs, hbefore⟩, hx⟩

theorem mem (h : FirstFailing pass xs x) : x ∈ xs := by
  obtain ⟨before, after, rfl, -⟩ := h
  exact List.mem_append_right _ List.mem_cons_self

theorem fails (h : FirstFailing pass xs x) : ¬pass x := by
  obtain ⟨_, _, _, _, hx⟩ := h
  exact hx

theorem unique (h : FirstFailing pass xs x) (h' : FirstFailing pass xs y) : x = y := by
  obtain ⟨before, after, rfl, hbefore, hx⟩ := h
  obtain ⟨before', after', heq, hbefore', hy⟩ := h'
  rcases List.append_eq_append_iff.1 heq with ⟨between, rfl, hrest⟩ | ⟨between, rfl, hrest⟩
  · cases between with
    | nil => exact (List.cons.inj hrest).1
    | cons z between =>
        obtain ⟨rfl, -⟩ := List.cons.inj hrest
        exact absurd (hbefore' x (by simp)) hx
  · cases between with
    | nil => exact (List.cons.inj hrest).1.symm
    | cons z between =>
        obtain ⟨rfl, -⟩ := List.cons.inj hrest
        exact absurd (hbefore y (by simp)) hy

end FirstFailing

/-- A sequence fails with the failure of the first step that fails. -/
theorem mapM_eq_error_iff {f : α → Except ε β} {xs : List α} {e : ε} :
    xs.mapM f = .error e ↔ ∃ x, FirstFailing (∃ y, f · = .ok y) xs x ∧ f x = .error e := by
  induction xs with
  | nil =>
      simp only [List.mapM_nil, pure, Except.pure, reduceCtorEq, false_iff]
      rintro ⟨x, hfirst, -⟩
      cases hfirst.mem
  | cons x xs ih =>
      rw [List.mapM_cons]
      constructor
      · intro h
        rcases bind_eq_error.1 h with hx | ⟨y, hy, hrest⟩
        · exact ⟨x, .head (by simp [hx]), hx⟩
        · rcases bind_eq_error.1 hrest with hxs | ⟨ys, -, hpure⟩
          · obtain ⟨z, hz, he⟩ := ih.1 hxs
            have hcons : FirstFailing (∃ y, f · = .ok y) ([x] ++ xs) z :=
              hz.append_left (List.forall_mem_singleton.2 ⟨y, hy⟩)
            exact ⟨z, hcons, he⟩
          · cases hpure
      · rintro ⟨z, ⟨before, after, hsplit, hbefore, hz⟩, he⟩
        cases before with
        | nil =>
            obtain ⟨rfl, rfl⟩ := List.cons.inj hsplit
            exact bind_eq_error.2 (.inl he)
        | cons y before =>
            obtain ⟨rfl, rfl⟩ := List.cons.inj hsplit
            obtain ⟨⟨b, hb⟩, hbefore⟩ := List.forall_mem_cons.1 hbefore
            exact bind_eq_error.2 (.inr ⟨b, hb,
              bind_eq_error.2 (.inl (ih.2 ⟨z, ⟨before, after, rfl, hbefore, hz⟩, he⟩))⟩)

theorem mapM_congr {m : Type → Type} [Monad m] [LawfulMonad m] {f g : α → m β} {xs : List α}
    (h : ∀ x ∈ xs, f x = g x) : xs.mapM f = xs.mapM g := by
  induction xs with
  | nil => rfl
  | cons x xs ih =>
      obtain ⟨hx, hxs⟩ := List.forall_mem_cons.1 h
      rw [List.mapM_cons, List.mapM_cons, hx, ih hxs]

theorem mapM_eq_error {f : α → Except ε β} {xs : List α} {e : ε} (h : xs.mapM f = .error e) :
    ∃ x ∈ xs, f x = .error e := by
  obtain ⟨x, hfirst, he⟩ := mapM_eq_error_iff.1 h
  exact ⟨x, hfirst.mem, he⟩

/-- Checks pairs at the same place of two lists, counting the places from the given one, until one
list ends. -/
def checkPairs (check : Nat → α → β → Except ε Unit) : Nat → List α → List β → Except ε Unit
  | place, a :: as, b :: bs => do
      check place a b
      checkPairs check (place + 1) as bs
  | _, _, _ => .ok ()

/-- Two lists have the given elements at a place. -/
def PairAt (as : List α) (bs : List β) (place : Nat) (a : α) (b : β) : Prop :=
  as[place]? = some a ∧ bs[place]? = some b

variable {check : Nat → α → β → Except ε Unit} {start : Nat} {as : List α} {bs : List β}

@[simp] theorem pairAt_zero {a a' : α} {b b' : β} :
    PairAt (a :: as) (b :: bs) 0 a' b' ↔ a = a' ∧ b = b' := by
  simp [PairAt]

@[simp] theorem pairAt_succ {a a' : α} {b b' : β} {place : Nat} :
    PairAt (a :: as) (b :: bs) (place + 1) a' b' ↔ PairAt as bs place a' b' := by
  simp [PairAt]

@[simp] theorem not_pairAt_nil_left {place : Nat} {a : α} {b : β} :
    ¬PairAt [] bs place a b := by
  simp [PairAt]

@[simp] theorem not_pairAt_nil_right {place : Nat} {a : α} {b : β} :
    ¬PairAt as [] place a b := by
  simp [PairAt]

theorem pairAt_map_right {f : β → ζ} {place : Nat} {a : α} {c : ζ} :
    PairAt as (bs.map f) place a c ↔ ∃ b, PairAt as bs place a b ∧ f b = c := by
  simp [PairAt, and_assoc]

theorem PairAt.mem_right {place : Nat} {a : α} {b : β} (h : PairAt as bs place a b) : b ∈ bs :=
  List.mem_of_getElem? h.2

theorem PairAt.unique {place : Nat} {a a' : α} {b b' : β} (h : PairAt as bs place a b)
    (h' : PairAt as bs place a' b') : a = a' ∧ b = b' :=
  ⟨Option.some.inj (h.1.symm.trans h'.1), Option.some.inj (h.2.symm.trans h'.2)⟩

theorem PairAt.of_isPrefix {as' : List α} {bs' : List β} {place : Nat} {a : α} {b : β}
    (h : PairAt as bs place a b) (has : as <+: as') (hbs : bs <+: bs') : PairAt as' bs' place a b := by
  obtain ⟨more, rfl⟩ := has
  obtain ⟨more', rfl⟩ := hbs
  rw [PairAt, List.getElem?_append_left (List.getElem?_eq_some_iff.1 h.1).1,
    List.getElem?_append_left (List.getElem?_eq_some_iff.1 h.2).1]
  exact h

theorem exists_pairAt (hlength : as.length = bs.length) {place : Nat} {a : α}
    (ha : as[place]? = some a) : ∃ b, PairAt as bs place a b := by
  have hplace : place < bs.length := hlength ▸ (List.getElem?_eq_some_iff.1 ha).1
  exact ⟨bs[place], ha, List.getElem?_eq_getElem hplace⟩

theorem forall_pairAt_cons {P : Nat → α → β → Prop} {a : α} {b : β} :
    (∀ place a' b', PairAt (a :: as) (b :: bs) place a' b' → P place a' b') ↔
      P 0 a b ∧ ∀ place a' b', PairAt as bs place a' b' → P (place + 1) a' b' := by
  constructor
  · intro h
    exact ⟨h 0 a b (by simp), fun place a' b' hpair => h _ _ _ (pairAt_succ.2 hpair)⟩
  · rintro ⟨hfirst, hrest⟩ place a' b' hpair
    cases place with
    | zero =>
        obtain ⟨rfl, rfl⟩ := pairAt_zero.1 hpair
        exact hfirst
    | succ place => exact hrest place a' b' (pairAt_succ.1 hpair)

theorem checkPairs_eq_ok :
    checkPairs check start as bs = .ok () ↔
      ∀ place a b, PairAt as bs place a b → check (start + place) a b = .ok () := by
  induction as generalizing start bs with
  | nil => simp [checkPairs]
  | cons a as ih =>
      cases bs with
      | nil => simp [checkPairs]
      | cons b bs =>
          rw [checkPairs, forall_pairAt_cons, bind_eq_ok]
          simp only [ih, Nat.add_zero, Nat.add_right_comm start 1, ← Nat.add_assoc]
          exact ⟨fun ⟨_, hfirst, hrest⟩ => ⟨hfirst, hrest⟩,
            fun ⟨hfirst, hrest⟩ => ⟨(), hfirst, hrest⟩⟩

/-- A check of pairs fails with the failure of the first pair that fails. -/
theorem checkPairs_eq_error {e : ε} :
    checkPairs check start as bs = .error e ↔
      ∃ place a b, PairAt as bs place a b ∧ check (start + place) a b = .error e ∧
        ∀ earlier < place, ∀ a b, PairAt as bs earlier a b →
          check (start + earlier) a b = .ok () := by
  induction as generalizing start bs with
  | nil => simp [checkPairs]
  | cons a as ih =>
      cases bs with
      | nil => simp [checkPairs]
      | cons b bs =>
          rw [checkPairs, bind_eq_error]
          constructor
          · rintro (hfirst | ⟨_, hfirst, hrest⟩)
            · exact ⟨0, a, b, by simp, hfirst, by simp⟩
            · obtain ⟨place, a', b', hpair, hfails, hpass⟩ := ih.1 hrest
              refine ⟨place + 1, a', b', pairAt_succ.2 hpair, ?_, ?_⟩
              · rwa [← Nat.add_assoc, Nat.add_right_comm]
              · intro earlier hearlier a₁ b₁ hpair₁
                cases earlier with
                | zero =>
                    obtain ⟨rfl, rfl⟩ := pairAt_zero.1 hpair₁
                    exact hfirst
                | succ earlier =>
                    rw [← Nat.add_assoc, Nat.add_right_comm]
                    exact hpass earlier (by omega) a₁ b₁ (pairAt_succ.1 hpair₁)
          · rintro ⟨place, a', b', hpair, hfails, hpass⟩
            cases place with
            | zero =>
                obtain ⟨rfl, rfl⟩ := pairAt_zero.1 hpair
                exact .inl hfails
            | succ place =>
                refine .inr ⟨(), hpass 0 (by omega) a b (by simp), ih.2 ⟨place, a', b', ?_⟩⟩
                refine ⟨pairAt_succ.1 hpair, ?_, fun earlier hearlier a₁ b₁ hpair₁ => ?_⟩
                · rwa [Nat.add_right_comm]
                · rw [Nat.add_right_comm]
                  exact hpass (earlier + 1) (by omega) a₁ b₁ (pairAt_succ.2 hpair₁)

/-- If two checks treat every pair alike, except that the first one may refuse it for a reason of its
own, they treat the lists alike, with the same exception. -/
theorem checkPairs_eq_or {check' : Nat → α → β → Except ε Unit} {reason : ε → Prop}
    (h : ∀ place a b, PairAt as bs place a b →
      check (start + place) a b = check' (start + place) a b ∨
        ∃ e, reason e ∧ check (start + place) a b = .error e) :
    checkPairs check start as bs = checkPairs check' start as bs ∨
      ∃ e, reason e ∧ checkPairs check start as bs = .error e := by
  induction as generalizing start bs with
  | nil => exact .inl rfl
  | cons a as ih =>
      cases bs with
      | nil => exact .inl rfl
      | cons b bs =>
          obtain ⟨hfirst, hrest⟩ := forall_pairAt_cons.1 h
          simp only [Nat.add_zero, ← Nat.add_assoc, Nat.add_right_comm start _ 1] at hfirst hrest
          rw [checkPairs, checkPairs]
          rcases hfirst with hsame | ⟨e, hreason, he⟩
          · rw [← hsame]
            cases check start a b with
            | error e => exact .inl rfl
            | ok _ => exact ih hrest
          · exact .inr ⟨e, hreason, bind_eq_error.2 (.inl he)⟩

theorem checkPairs_congr {check' : Nat → α → β → Except ε Unit}
    (h : ∀ place a b, PairAt as bs place a b → check (start + place) a b = check' (start + place) a b) :
    checkPairs check start as bs = checkPairs check' start as bs := by
  have hsame : checkPairs check start as bs = checkPairs check' start as bs ∨
      ∃ e, False ∧ checkPairs check start as bs = .error e :=
    checkPairs_eq_or fun place a b hpair => .inl (h place a b hpair)
  rcases hsame with hsame | ⟨_, hfalse, -⟩
  · exact hsame
  · exact hfalse.elim

theorem forall₂_iff_pairAt {R : α → β → Prop} :
    List.Forall₂ R as bs ↔
      as.length = bs.length ∧ ∀ place a b, PairAt as bs place a b → R a b := by
  induction as generalizing bs with
  | nil => cases bs <;> simp
  | cons a as ih =>
      cases bs with
      | nil => simp
      | cons b bs =>
          rw [List.forall₂_cons, forall_pairAt_cons, ih, List.length_cons, List.length_cons,
            Nat.add_right_cancel_iff]
          exact and_left_comm

end ShapeAssert
