import ShapeAssert.Proofs.Check.Trials

/-! Checks with more or fewer trials. No trial knows how many there are to be, so a check with more of
them does what one with fewer does and then, if that one passes, goes on in the session it left. A
failure is therefore the failure of every deeper check, and a pass that of every shallower one. -/

namespace ShapeAssert

variable {S : Type → Type} [Storage S] {σ κ ε α : Type} [Element α]

namespace Setup

variable {setup setup' : Setup σ κ ε S α} {session : Session σ κ}

/-! ### The number of trials -/

/-- The same trials with another number of them in the settings. -/
def withDepth (setup : Setup σ κ ε S α) (depth : Nat) : Setup σ κ ε S α :=
  { setup with config := { setup.config with depth } }

/-- No trial depends on how many there are to be. -/
theorem run_withDepth (setup : Setup σ κ ε S α) (depth : Nat) (session : Session σ κ) :
    (setup.withDepth depth).run session = setup.run session :=
  rfl

theorem check_congr (h : ∀ session, setup.run session = setup'.run session) (depth : Nat)
    (session : Session σ κ) : setup.check depth session = setup'.check depth session := by
  induction depth generalizing session with
  | zero => rfl
  | succ depth ih =>
      have hrun := h session
      by_cases hpass : setup.Passes session 0
      · have hpass' : setup'.Passes session 0 := by
          unfold Passes nth before at hpass ⊢
          rwa [← hrun]
        rw [check_succ_of_passes hpass, check_succ_of_passes hpass', hrun, ih]
      · have hfails : ¬setup'.Passes session 0 := by
          unfold Passes nth before at hpass ⊢
          rwa [← hrun]
        rw [check_of_fails (Nat.succ_pos depth) hpass, check_of_fails (Nat.succ_pos depth) hfails, hrun]

theorem check_withDepth (setup : Setup σ κ ε S α) (depth count : Nat) (session : Session σ κ) :
    (setup.withDepth depth).check count session = setup.check count session :=
  check_congr (setup.run_withDepth depth) count session

/-! ### More trials -/

/-- A check that fails does the same with more trials. -/
theorem check_add_of_fails {depth : Nat} (h : (setup.check depth session).outcome ≠ .ok ())
    (more : Nat) : setup.check (depth + more) session = setup.check depth session := by
  rcases reached_or_first_failure setup session depth with hall | ⟨n, hn, hreached, hfails⟩
  · exact absurd (check_passes_iff.2 hall) h
  · have hdeep : n < depth + more := Nat.lt_add_right more hn
    rw [check_of_first_failure hdeep hreached hfails, check_of_first_failure hn hreached hfails]

/-- A check that passes goes on from where it stops if there are more trials. -/
theorem check_add_of_passes {depth : Nat} (h : (setup.check depth session).outcome = .ok ())
    (more : Nat) :
    setup.check (depth + more) session =
      { setup.check more (setup.check depth session).session with
        calls := (setup.check depth session).calls ++
          (setup.check more (setup.check depth session).session).calls } := by
  have hreached := check_passes_iff.1 h
  clear h
  induction depth generalizing session with
  | zero => rw [Nat.zero_add]; rfl
  | succ depth ih =>
      obtain ⟨hfirst, hrest⟩ := hreached.tail
      rw [Nat.succ_add, check_succ_of_passes hfirst, check_succ_of_passes hfirst, ih hrest]
      simp only [List.append_assoc]

theorem length_calls_of_passes {depth : Nat} (h : (setup.check depth session).outcome = .ok ()) :
    (setup.check depth session).calls.length = depth := by
  have hreached := check_passes_iff.1 h
  rw [check_of_reached hreached]
  exact length_callsUpTo hreached

end Setup

/-- How the report of a check goes on from that of a check with fewer trials. If the shorter check fails
nothing is added to it. If the longer one passes then so does the shorter one, which has made the
first calls, one for each of its trials. The calls of the shorter one come first in any case. -/
structure Report.Continues (shorter longer : Report σ κ ε S α) (depth : Nat) : Prop where
  same_of_fails : ∀ failure, shorter.outcome = .error failure → longer = shorter
  passes_of_passes : longer.outcome = .ok () →
    shorter.outcome = .ok () ∧ shorter.calls.length = depth ∧
      shorter.calls = longer.calls.take depth
  first_calls : shorter.calls <+: longer.calls

omit [Storage S] [Element α] in
theorem Report.continues_self {report : Report σ κ ε S α} {failure : Failure ε}
    (h : report.outcome = .error failure) (depth : Nat) : report.Continues report depth where
  same_of_fails _ _ := rfl
  passes_of_passes hpass := nomatch h.symm.trans hpass
  first_calls := List.prefix_rfl

namespace Setup

theorem check_continues (setup : Setup σ κ ε S α) (session : Session σ κ) (depth more : Nat) :
    (setup.check depth session).Continues (setup.check (depth + more) session) depth := by
  cases houtcome : (setup.check depth session).outcome with
  | error failure =>
      have hfails : (setup.check depth session).outcome ≠ .ok () := by
        rw [houtcome]
        exact nofun
      rw [check_add_of_fails hfails]
      exact Report.continues_self houtcome depth
  | ok _ =>
      have hlength := length_calls_of_passes houtcome
      rw [check_add_of_passes houtcome]
      exact
        { same_of_fails := fun failure hfails => nomatch houtcome.symm.trans hfails
          passes_of_passes := fun _ => ⟨houtcome, hlength, (List.take_left' hlength).symm⟩
          first_calls := List.prefix_append _ _ }

end Setup

namespace Checker

variable (checker : Checker S α) (source : RandomSource σ α) (f : Callable κ ε S α)
  (session : Session σ κ) {depth depth' : Nat}

theorem tryCheck_withDepth (pattern : Pattern) (constraints : Constraints) (depth : Nat) :
    (checker.withDepth depth).tryCheck source pattern constraints f session =
      (checker.setup source pattern constraints f).check depth (checker.opening source session) := by
  rw [tryCheck_eq_check]
  exact Setup.check_withDepth (checker.setup source pattern constraints f) depth depth _

theorem tryCheck_continues (pattern : Pattern) (constraints : Constraints) (h : depth ≤ depth') :
    ((checker.withDepth depth).tryCheck source pattern constraints f session).Continues
      ((checker.withDepth depth').tryCheck source pattern constraints f session) depth := by
  obtain ⟨more, rfl⟩ := Nat.exists_eq_add_of_le h
  rw [tryCheck_withDepth, tryCheck_withDepth]
  exact Setup.check_continues _ _ depth more

/-- A deeper check goes on from a shallower one of the same function, with the same pattern,
constraints, settings and source. If the shallower check fails, the deeper one fails with the same
error after the same calls with the same inputs; if the deeper one passes, the shallower one passes and
its calls are the first ones of the deeper one, as many as it has trials. So it is when the pattern and
the constraints are still to be read. -/
theorem deeper_check_continues (h : depth ≤ depth') :
    (∀ pattern constraints,
      ((checker.withDepth depth).tryCheck source pattern constraints f session).Continues
        ((checker.withDepth depth').tryCheck source pattern constraints f session) depth) ∧
    ∀ text raw,
      ((checker.withDepth depth).tryTest source text raw f session).Continues
        ((checker.withDepth depth').tryTest source text raw f session) depth := by
  refine ⟨fun pattern constraints => tryCheck_continues checker source f session pattern constraints h,
    fun text raw => ?_⟩
  cases hpattern : Pattern.parse text with
  | error e =>
      rw [tryTest_of_parse_error _ source f session hpattern,
        tryTest_of_parse_error _ source f session hpattern]
      exact Report.continues_self rfl depth
  | ok pattern =>
      cases hconstraints : Constraints.validate raw with
      | error e =>
          rw [tryTest_of_validate_error _ source f session hpattern hconstraints,
            tryTest_of_validate_error _ source f session hpattern hconstraints]
          exact Report.continues_self rfl depth
      | ok constraints =>
          rw [tryTest_of_ok _ source f session hpattern hconstraints,
            tryTest_of_ok _ source f session hpattern hconstraints]
          exact tryCheck_continues checker source f session pattern constraints h

/-- A function that returns its input the first time and nothing afterwards passes one trial and fails
the second one, however many there are to be. -/
theorem deeper_check_repeats_failure :
    let side : Formula := ⟨"b", [⟨.ofList [.letter 'b'], "b"⟩]⟩
    let checker : Checker HeapStorage Float := ⟨.heap, { fill := .zeros, bound := 8 }⟩
    let f : Callable Nat Empty HeapStorage Float := fun calls inputs =>
      (.ok ⟨if calls = 0 then inputs else []⟩, calls + 1)
    let report (depth : Nat) := (checker.withDepth depth).tryCheck (RandomSource.scripted (0 : Float))
      ⟨"b->b", side, side⟩ ∅ f ⟨⟨[], .empty⟩, 0⟩
    2 ≤ 5 ∧ (report 1).outcome = .ok () ∧
      (report 2).outcome = .error (.rejected (.outputArity 1 0)) ∧ report 5 = report 2 ∧
      (report 5).calls.length = 2 := by
  intro side checker f report
  have hfails : (report 2).outcome = .error (.rejected (.outputArity 1 0)) := by rfl
  have hsame : report 5 = report 2 :=
    ((deeper_check_continues checker (RandomSource.scripted (0 : Float)) f ⟨⟨[], .empty⟩, 0⟩
      (by decide : 2 ≤ 5)).1 ⟨"b->b", side, side⟩ ∅).same_of_fails _ hfails
  have hcalls : (report 2).calls.length = 2 := by rfl
  exact ⟨by decide, rfl, hfails, hsame, by rwa [hsame]⟩

end Checker

end ShapeAssert
