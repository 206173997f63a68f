import ShapeAssert.Proofs.Check.Trials

/-! Two checks side by side. What a trial does is settled by what it draws and generates before its
call, by the answer of the function and by the judgement. If the trials of two checks go alike from
every session then so do the checks; if only their outcomes differ then the checks go alike for as
long as both go on. -/

namespace ShapeAssert

variable {S : Type → Type} [Storage S] {σ κ ε α : Type} [Element α]

namespace Setup

/-- What a trial in the session comes to before its call: the values it draws, and with these the
inputs it generates, or why it cannot, and the room they leave. -/
def preparation (setup : Setup σ κ ε S α) (session : Session σ κ) :
    Except Error (Assignment × Except Error (List (Tensor S α)) × Room σ) :=
  (Assignment.draw setup.source setup.pattern.inputs setup.constraints setup.config.bound
    session.room.random).map fun drawn =>
      (drawn.1, buildInputs setup.backend setup.source setup.config.fill drawn.1.lookup
        setup.pattern.inputs.tensors ⟨drawn.2, session.room.directory⟩)

theorem run_eq_preparation (setup : Setup σ κ ε S α) (session : Session σ κ) :
    setup.run session =
      match setup.preparation session with
      | .error e => ⟨.error (.rejected e), [], session⟩
      | .ok (_, .error e, room) => ⟨.error (.rejected e), [], { session with room }⟩
      | .ok (assignment, .ok inputs, room) =>
          { outcome := judge setup.config.strict assignment setup.pattern.outputs
              (setup.f session.callable inputs).1
            calls := [⟨assignment, inputs, (setup.f session.callable inputs).1, room.directory⟩]
            session := ⟨inputs.foldl Room.release room, (setup.f session.callable inputs).2⟩ } := by
  rw [run, trial, preparation]
  cases Assignment.draw setup.source setup.pattern.inputs setup.constraints setup.config.bound
      session.room.random with
  | error e => rfl
  | ok drawn =>
      dsimp only [Except.map]
      rcases buildInputs setup.backend setup.source setup.config.fill drawn.1.lookup
        setup.pattern.inputs.tensors ⟨drawn.2, session.room.directory⟩ with ⟨_ | inputs, room⟩
      · rfl
      · rfl

theorem preparation_eq_ok {setup : Setup σ κ ε S α} {session : Session σ κ} {assignment : Assignment}
    {prepared : Except Error (List (Tensor S α)) × Room σ} :
    setup.preparation session = .ok (assignment, prepared) ↔
      ∃ random, Assignment.draw setup.source setup.pattern.inputs setup.constraints
          setup.config.bound session.room.random = .ok (assignment, random) ∧
        buildInputs setup.backend setup.source setup.config.fill assignment.lookup
          setup.pattern.inputs.tensors ⟨random, session.room.directory⟩ = prepared := by
  rw [preparation, map_eq_ok]
  constructor
  · rintro ⟨⟨assignment', random⟩, hdraw, heq⟩
    obtain ⟨rfl, hbuild⟩ := Prod.mk.inj heq
    exact ⟨random, hdraw, hbuild⟩
  · rintro ⟨random, hdraw, rfl⟩
    exact ⟨(assignment, random), hdraw, rfl⟩

/-! ### The calls of a check -/

variable {setup setup' : Setup σ κ ε S α}

theorem callsUpTo_isPrefix {m n : Nat} (h : m ≤ n) (session : Session σ κ) :
    setup.callsUpTo m session <+: setup.callsUpTo n session := by
  obtain ⟨k, rfl⟩ := Nat.exists_eq_add_of_le h
  rw [callsUpTo, callsUpTo, List.range_add, List.flatMap_append]
  exact List.prefix_append _ _

/-- The call of the first trial is the first call of the check. -/
theorem calls_run_isPrefix_check (depth : Nat) (session : Session σ κ) :
    (setup.run session).calls <+: (setup.check (depth + 1) session).calls := by
  by_cases hpass : setup.Passes session 0
  · rw [check_succ_of_passes hpass]
    exact List.prefix_append _ _
  · exact ⟨[], by rw [List.append_nil, check_of_fails (Nat.succ_pos depth) hpass]⟩

/-- A check makes the calls of its trials, for as long as it goes on. -/
theorem calls_isPrefix_callsUpTo (depth : Nat) (session : Session σ κ) :
    (setup.check depth session).calls <+: setup.callsUpTo depth session := by
  rcases reached_or_first_failure setup session depth with hall | ⟨n, hn, hreached, hfails⟩
  · exact ⟨[], by rw [List.append_nil, check_of_reached hall]⟩
  · rw [check_of_first_failure hn hreached hfails]
    exact callsUpTo_isPrefix hn session

/-! ### Trials that leave the same session -/

section

variable (hsession : ∀ session, (setup.run session).session = (setup'.run session).session)
include hsession

theorem before_congr (n : Nat) (session : Session σ κ) :
    setup.before n session = setup'.before n session := by
  induction n generalizing session with
  | zero => rfl
  | succ n ih => rw [before, before, hsession, ih]

variable {alike : Call ε S α → Call ε S α → Prop}
  (hcalls : ∀ session, List.Forall₂ alike (setup.run session).calls (setup'.run session).calls)
include hcalls

theorem callsUpTo_alike (count : Nat) (session : Session σ κ) :
    List.Forall₂ alike (setup.callsUpTo count session) (setup'.callsUpTo count session) := by
  induction count generalizing session with
  | zero => exact .nil
  | succ count ih =>
      rw [callsUpTo_succ, callsUpTo_succ, ← hsession]
      exact List.rel_append (hcalls session) (ih _)

/-- Calls that two checks make at the same place are as alike as those of single trials. -/
theorem calls_of_pairAt {depth n : Nat} {session : Session σ κ} {call call' : Call ε S α}
    (h : PairAt (setup.check depth session).calls (setup'.check depth session).calls n call call') :
    alike call call' := by
  have hall := callsUpTo_alike hsession hcalls depth session
  have hpair : PairAt (setup.callsUpTo depth session) (setup'.callsUpTo depth session) n call
      call' :=
    h.of_isPrefix (calls_isPrefix_callsUpTo depth session) (calls_isPrefix_callsUpTo depth session)
  exact (forall₂_iff_pairAt.1 hall).2 n call call' hpair

end

end Setup

/-- Two checks end alike, after calls that are alike. -/
structure Report.Alike (alike : Call ε S α → Call ε S α → Prop) (left right : Report σ κ ε S α) :
    Prop where
  outcome : left.outcome = right.outcome
  calls : List.Forall₂ alike left.calls right.calls
  session : left.session = right.session

namespace Setup

variable {setup setup' : Setup σ κ ε S α}

/-- If single trials go alike from every session, whole checks do. -/
theorem check_alike {alike : Call ε S α → Call ε S α → Prop}
    (h : ∀ session, (setup.run session).Alike alike (setup'.run session)) (depth : Nat)
    (session : Session σ κ) :
    (setup.check depth session).Alike alike (setup'.check depth session) := by
  induction depth generalizing session with
  | zero => exact ⟨rfl, .nil, rfl⟩
  | succ depth ih =>
      have hfirst := h session
      by_cases hpass : setup.Passes session 0
      · have hpass' : setup'.Passes session 0 := hfirst.outcome.symm.trans hpass
        have hrest := ih (setup.run session).session
        rw [check_succ_of_passes hpass, check_succ_of_passes hpass', ← hfirst.session]
        exact ⟨hrest.outcome, List.rel_append hfirst.calls hrest.calls, hrest.session⟩
      · have hfails : ¬setup'.Passes session 0 := fun hpass' =>
          hpass (hfirst.outcome.trans hpass')
        rw [check_of_fails (Nat.succ_pos depth) hpass, check_of_fails (Nat.succ_pos depth) hfails]
        exact hfirst

end Setup

end ShapeAssert
