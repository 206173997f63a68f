import ShapeAssert.Proofs.Check.Drawing
import ShapeAssert.Proofs.Check.Lockstep
import ShapeAssert.Proofs.Check.Routing

/-! What strict mode adds. It draws, generates and calls as any other check does and only judges more
strictly: a bare letter of the output side that occurs neither on the input side nor in a constraint
is an error at its place, where it would be skipped otherwise. Places are judged in the same order, so
any other failure found before is the failure of both. -/

namespace ShapeAssert

/-- A bare letter on an axis of the output side that gets no value in any trial. -/
structure Pattern.LeavesUnbound (pattern : Pattern) (constraints : Constraints) (output axis : Nat)
    (letter : Char) : Prop where
  bare : pattern.outputs.dimensionAt? output axis = some (.letter letter)
  notInput : letter ∉ pattern.inputs.letters
  unconstrained : letter ∉ constraints.keys

theorem Assignment.Drawn.leavesUnbound {pattern : Pattern} {constraints : Constraints}
    {bound : Nat} {assignment : Assignment}
    (h : Drawn pattern.inputs constraints bound assignment) {output axis : Nat} {letter : Char}
    (hbare : pattern.outputs.dimensionAt? output axis = some (.letter letter))
    (hletter : assignment.contains letter = false) :
    pattern.LeavesUnbound constraints output axis letter := by
  have hkeys : letter ∉ assignment.keys := by simp [LetterMap.mem_keys, hletter]
  rw [h.mem_keys, not_or] at hkeys
  exact ⟨hbare, hkeys.1, hkeys.2⟩

namespace Formula

/-- The error of a bare letter of the formula that has no value. -/
def UnboundError (formula : Formula) (assignment : Assignment) (e : Error) : Prop :=
  ∃ output axis letter, formula.dimensionAt? output axis = some (.letter letter) ∧
    assignment.contains letter = false ∧ e = .unboundOutputVariable output axis letter

variable {formula : Formula} {assignment : Assignment}

theorem checkExtent_strict {output axis extent : Nat} {dimension : Dimension}
    (h : formula.dimensionAt? output axis = some dimension) :
    checkExtent true assignment output axis dimension extent =
        checkExtent false assignment output axis dimension extent ∨
      ∃ e, formula.UnboundError assignment e ∧
        checkExtent true assignment output axis dimension extent = .error e := by
  by_cases hunbound : dimension.Unbound assignment
  · obtain ⟨letter, rfl, hletter⟩ := hunbound
    exact .inr ⟨_, ⟨output, axis, letter, h, hletter, rfl⟩, checkExtent_unbound hletter⟩
  · rw [checkExtent_of_not_unbound hunbound, checkExtent_of_not_unbound hunbound]
    exact .inl rfl

theorem checkOutput_strict {output : Nat} {tensor : TensorFormula} {shape : Shape}
    (h : formula.tensors[output]? = some tensor) :
    checkOutput true assignment output tensor shape =
        checkOutput false assignment output tensor shape ∨
      ∃ e, formula.UnboundError assignment e ∧
        checkOutput true assignment output tensor shape = .error e := by
  rw [checkOutput, checkOutput]
  split
  · rw [checkAxes_eq_checkPairs, checkAxes_eq_checkPairs]
    refine checkPairs_eq_or fun axis dimension extent hpair => ?_
    rw [Nat.zero_add]
    refine checkExtent_strict ?_
    rw [dimensionAt?, h]
    exact hpair.1
  · exact .inl rfl

/-- The strict check of outputs comes to the same as the other one, or finds a letter without a
value. -/
theorem checkOutputs_strict (shapes : List Shape) :
    formula.checkOutputs true assignment shapes = formula.checkOutputs false assignment shapes ∨
      ∃ e, formula.UnboundError assignment e ∧
        formula.checkOutputs true assignment shapes = .error e := by
  rw [checkOutputs, checkOutputs]
  split
  · rw [checkEach_eq_checkPairs, checkEach_eq_checkPairs]
    refine checkPairs_eq_or fun output tensor shape hpair => ?_
    rw [Nat.zero_add]
    exact checkOutput_strict hpair.1
  · exact .inl rfl

end Formula

variable {S : Type → Type} {σ κ ε α : Type}

theorem judge_strict (assignment : Assignment) (formula : Formula)
    (result : Except ε (Outputs (Tensor S α))) :
    judge true assignment formula result = judge false assignment formula result ∨
      ∃ e, formula.UnboundError assignment e ∧
        judge true assignment formula result = .error (.rejected e) := by
  cases result with
  | error cause => exact .inl rfl
  | ok outputs =>
      rw [judge, judge]
      rcases Formula.checkOutputs_strict (outputs.values.map (·.shape)) with hsame | ⟨e, hunbound, he⟩
      · exact .inl (congrArg _ hsame)
      · exact .inr ⟨e, hunbound, mapError_eq_error.2 ⟨e, he, rfl⟩⟩

/-- The report of a check that fails at a letter which the pattern and the constraints leave without
a value. -/
def Report.FailsUnbound (report : Report σ κ ε S α) (pattern : Pattern) (constraints : Constraints) :
    Prop :=
  ∃ output axis letter, pattern.LeavesUnbound constraints output axis letter ∧
    report.outcome = .error (.rejected (.unboundOutputVariable output axis letter))

variable [Storage S] [Element α]

namespace Setup

def withStrict (setup : Setup σ κ ε S α) (strict : Bool) : Setup σ κ ε S α :=
  { setup with config := { setup.config with strict } }

variable (setup : Setup σ κ ε S α) (session : Session σ κ)

theorem preparation_withStrict (strict : Bool) :
    (setup.withStrict strict).preparation session = setup.preparation session :=
  rfl

/-- Strictness shows in the outcome of a trial alone. -/
theorem run_withStrict (strict strict' : Bool) :
    (setup.withStrict strict).run session =
      { (setup.withStrict strict').run session with
        outcome := ((setup.withStrict strict).run session).outcome } := by
  rw [run_eq_preparation, run_eq_preparation, preparation_withStrict, preparation_withStrict]
  rcases setup.preparation session with e | ⟨assignment, e | inputs, room⟩
  · rfl
  · rfl
  · rfl

theorem outcome_run_withStrict :
    ((setup.withStrict true).run session).outcome = ((setup.withStrict false).run session).outcome ∨
      ((setup.withStrict true).run session).FailsUnbound setup.pattern setup.constraints := by
  rw [run_eq_preparation, run_eq_preparation, preparation_withStrict, preparation_withStrict]
  cases hprepared : setup.preparation session with
  | error e => exact .inl rfl
  | ok prepared =>
      obtain ⟨assignment, e | inputs, room⟩ := prepared
      · exact .inl rfl
      · rcases judge_strict assignment setup.pattern.outputs (setup.f session.callable inputs).1 with
          hsame | ⟨e, ⟨output, axis, letter, hbare, hletter, rfl⟩, he⟩
        · exact .inl hsame
        · obtain ⟨random, hdraw, -⟩ := preparation_eq_ok.1 hprepared
          have hunbound := (Assignment.drawn_of_draw hdraw).leavesUnbound hbare hletter
          exact .inr ⟨output, axis, letter, hunbound, he⟩

/-- A strict check is the same as the other one, or it ends at a letter without a value after the first
calls of the other one. -/
theorem check_withStrict (depth : Nat) :
    (setup.withStrict true).check depth session = (setup.withStrict false).check depth session ∨
      ((setup.withStrict true).check depth session).FailsUnbound setup.pattern setup.constraints ∧
        ((setup.withStrict true).check depth session).calls <+:
          ((setup.withStrict false).check depth session).calls := by
  induction depth generalizing session with
  | zero => exact .inl rfl
  | succ depth ih =>
      have hrun := setup.run_withStrict session true false
      have hdepth : 1 ≤ depth + 1 := Nat.succ_pos depth
      rcases setup.outcome_run_withStrict session with hsame | hunbound
      · rw [hsame] at hrun
        by_cases hpass : (setup.withStrict true).Passes session 0
        · have hpass' : (setup.withStrict false).Passes session 0 := hsame.symm.trans hpass
          rw [check_succ_of_passes hpass, check_succ_of_passes hpass', hrun]
          rcases ih ((setup.withStrict false).run session).session with hrest | ⟨hrest, hprefix⟩
          · exact .inl (by rw [hrest])
          · exact .inr ⟨hrest, List.prefix_append_right_inj _ |>.2 hprefix⟩
        · have hfails : ¬(setup.withStrict false).Passes session 0 := fun hpass' =>
            hpass (hsame.trans hpass')
          rw [check_of_fails hdepth hpass, check_of_fails hdepth hfails]
          exact .inl hrun
      · have hfails : ¬(setup.withStrict true).Passes session 0 := by
          intro hpass
          obtain ⟨output, axis, letter, -, he⟩ := hunbound
          exact nomatch hpass.symm.trans he
        rw [check_of_fails hdepth hfails]
        refine .inr ⟨hunbound, ?_⟩
        rw [hrun]
        exact calls_run_isPrefix_check depth session

end Setup

namespace Checker

/-- Strict mode only adds failures at letters without a value. A strict check and the same check
without strict mode have the same outcome after the same calls and leave the same session, or the
strict one ends at a bare letter of the output side that occurs neither on the input side nor in a
constraint, after some of the first calls of the other one. If there is no such letter both are the
same, and what passes strictly passes. -/
theorem strict_mode_adds_unbound_failures (checker : Checker S α) (source : RandomSource σ α)
    (pattern : Pattern) (constraints : Constraints) (f : Callable κ ε S α) (session : Session σ κ) :
    let strict := (checker.withStrict true).tryCheck source pattern constraints f session
    let lenient := (checker.withStrict false).tryCheck source pattern constraints f session
    (strict = lenient ∨
      (∃ output axis letter, pattern.LeavesUnbound constraints output axis letter ∧
        strict.outcome = .error (.rejected (.unboundOutputVariable output axis letter))) ∧
      strict.calls <+: lenient.calls) ∧
    ((∀ tensor ∈ pattern.outputs.tensors, ∀ letter, .letter letter ∈ tensor.dimensions →
        letter ∈ pattern.inputs.letters ∨ letter ∈ constraints.keys) →
      strict = lenient) ∧
    (strict.outcome = .ok () → lenient.outcome = .ok ()) := by
  intro strict lenient
  have hcases : strict = lenient ∨
      strict.FailsUnbound pattern constraints ∧ strict.calls <+: lenient.calls :=
    (checker.setup source pattern constraints f).check_withStrict (checker.opening source session)
      checker.config.depth
  refine ⟨hcases, fun hall => ?_, fun hpass => ?_⟩
  · rcases hcases with hsame | ⟨⟨output, axis, letter, hunbound, -⟩, -⟩
    · exact hsame
    · obtain ⟨tensor, htensor, haxis⟩ := Option.bind_eq_some_iff.1 hunbound.bare
      rcases hall tensor (List.mem_of_getElem? htensor) letter (List.mem_of_getElem? haxis) with
        hinput | hconstraint
      · exact absurd hinput hunbound.notInput
      · exact absurd hconstraint hunbound.unconstrained
  · rcases hcases with hsame | ⟨⟨output, axis, letter, -, he⟩, -⟩
    · rw [← hsame]
      exact hpass
    · rw [hpass] at he
      cases he

/-- A function that returns its input passes for an output with a letter of its own, but not in strict
mode. -/
example :
    let pattern : Pattern :=
      ⟨"ab->an", ⟨"ab", [⟨.ofList [.letter 'a', .letter 'b'], "ab"⟩]⟩,
        ⟨"an", [⟨.ofList [.letter 'a', .letter 'n'], "an"⟩]⟩⟩
    let checker : Checker HeapStorage Float := ⟨.heap, { fill := .zeros, bound := 8 }⟩
    let f : Callable Unit Empty HeapStorage Float := fun state inputs => (.ok ⟨inputs⟩, state)
    let report (strict : Bool) := (checker.withStrict strict).tryCheck
      (RandomSource.scripted (0 : Float)) pattern ∅ f ⟨⟨[], .empty⟩, ()⟩
    (report false).outcome = .ok () ∧
      (report true).outcome = .error (.rejected (.unboundOutputVariable 0 1 'n')) :=
  ⟨rfl, rfl⟩

end Checker

end ShapeAssert
