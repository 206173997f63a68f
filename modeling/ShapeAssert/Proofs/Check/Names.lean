import ShapeAssert.Proofs.Check.Drawing
import ShapeAssert.Proofs.Check.Lockstep
import ShapeAssert.Proofs.Formula.Variables

/-! What a check makes of the names in groups. Every letter of the input side gets a value before
inputs are generated, so as long as its names are single letters no input lacks a shape for want of a
value. A name of several letters never has a value, so a pattern with such a name never passes, and
with one on the input side the function is not even called. -/

namespace ShapeAssert

/-- Under drawn values no formula of an input side that was read lacks a shape for want of a value. -/
theorem Pattern.shape_ne_undefined {text : String} {pattern : Pattern}
    (hparse : parse text = .ok pattern) (hnames : ¬pattern.inputs.HasLongName)
    {constraints : Constraints} {bound : Nat} {assignment : Assignment}
    (hdrawn : Assignment.Drawn pattern.inputs constraints bound assignment)
    {tensor : TensorFormula} (htensor : tensor ∈ pattern.inputs.tensors) {expression name : String} :
    tensor.shape assignment.lookup ≠ .error (.undefinedVariable expression name) := by
  intro hundefined
  obtain ⟨-, inputs, outputs, -, -, -, hinputs, -⟩ := parse_eq_ok_iff.1 hparse
  have hread := Formula.parse_source_of_listedIn hinputs.2 tensor htensor
  have hshort : ¬tensor.HasLongName := fun hlong => hnames ⟨tensor, htensor, hlong⟩
  obtain ⟨c, hc, hnone⟩ := TensorFormula.exists_unbound_of_shape hread hshort hundefined
  obtain ⟨n, hn⟩ := hdrawn.exists_lookup (Formula.mem_letters.2 ⟨tensor, htensor, hc⟩)
  rw [hn] at hnone
  cases hnone

/-- Outputs never pass for a formula that names a variable of several letters. -/
theorem Formula.HasLongName.checkOutputs_ne_ok {formula : Formula} (h : formula.HasLongName)
    {strict : Bool} {assignment : Assignment} {shapes : List Shape} :
    formula.checkOutputs strict assignment shapes ≠ .ok () := by
  intro hpass
  obtain ⟨hcount, hfits⟩ := checkOutputs_eq_ok.1 hpass
  obtain ⟨tensor, htensor, source, e, hgroup, hlong⟩ := h
  obtain ⟨output, houtput⟩ := List.mem_iff_getElem?.1 htensor
  obtain ⟨shape, hshape⟩ := exists_pairAt hcount.symm houtput
  obtain ⟨hrank, hextents⟩ := hfits output tensor shape hshape
  obtain ⟨axis, haxis⟩ := List.mem_iff_getElem?.1 hgroup
  obtain ⟨extent, hextent⟩ := exists_pairAt hrank.symm haxis
  rcases hextents axis _ extent hextent with ⟨-, letter, hletter, -⟩ | hvalue
  · cases hletter
  · exact Dimension.value_group_ne_ok hlong hvalue

variable {S : Type → Type} {σ κ ε α : Type}

theorem judge_eq_ok {strict : Bool} {assignment : Assignment} {formula : Formula}
    {result : Except ε (Outputs (Tensor S α))}
    (h : judge strict assignment formula result = .ok ()) :
    ∃ outputs, result = .ok outputs ∧
      formula.checkOutputs strict assignment (outputs.values.map (·.shape)) = .ok () := by
  cases result with
  | error cause => cases h
  | ok outputs => exact ⟨outputs, rfl, mapError_eq_ok.1 h⟩

variable [Storage S] [Element α]

namespace Setup

variable {setup : Setup σ κ ε S α} {session : Session σ κ}

/-- A trial that makes no call does not fail for want of a value. -/
theorem run_ne_undefined {text : String} (hparse : Pattern.parse text = .ok setup.pattern)
    (hnames : ¬setup.pattern.inputs.HasLongName) {expression name : String}
    (hcalls : (setup.run session).calls = []) :
    (setup.run session).outcome ≠ .error (.rejected (.undefinedVariable expression name)) := by
  intro houtcome
  rw [run_eq_preparation] at hcalls houtcome
  cases hprepared : setup.preparation session with
  | error e =>
      rw [hprepared] at houtcome
      obtain ⟨-, rfl⟩ := Assignment.draw_eq_error.1 (map_eq_error.1 hprepared)
      cases houtcome
  | ok prepared =>
      obtain ⟨assignment, e | inputs, room⟩ := prepared
      · rw [hprepared] at houtcome
        obtain rfl := Failure.rejected.inj (Except.error.inj houtcome)
        obtain ⟨random, hdraw, hbuild⟩ := preparation_eq_ok.1 hprepared
        rcases buildInputs_eq_error hbuild with ⟨tensor, htensor, hshape⟩ | hgenerating
        · exact Pattern.shape_ne_undefined hparse hnames (Assignment.drawn_of_draw hdraw) htensor
            hshape
        · cases hgenerating
      · rw [hprepared] at hcalls
        cases hcalls

/-- With a name of several letters on the input side no trial comes to its call. -/
theorem calls_run_of_hasLongName (h : setup.pattern.inputs.HasLongName) :
    (setup.run session).calls = [] := by
  rcases setup.run_cases session with ⟨call, -, hcalls⟩ | ⟨-, hcalls, -⟩
  · obtain ⟨tensor, htensor, hlong⟩ := h
    obtain ⟨input, -, -, hshape⟩ := exists_of_mem_forall₂ hcalls.shapes.flip htensor
    exact absurd hshape hlong.shape_ne_ok
  · exact hcalls

/-- With a name of several letters on either side no trial passes. -/
theorem run_ne_ok_of_hasLongName
    (h : setup.pattern.inputs.HasLongName ∨ setup.pattern.outputs.HasLongName) :
    (setup.run session).outcome ≠ .ok () := by
  intro hpass
  obtain ⟨call, hcall, hcalls⟩ := calls_of_passes hpass
  rcases h with hinput | houtput
  · rw [calls_run_of_hasLongName hinput] at hcall
    cases hcall
  · obtain ⟨outputs, -, hcheck⟩ := judge_eq_ok (hcalls.judged.symm.trans hpass)
    exact houtput.checkOutputs_ne_ok hcheck

/-- With a name of several letters on the input side a check makes no call. -/
theorem calls_check_of_hasLongName (h : setup.pattern.inputs.HasLongName) {depth : Nat} :
    (setup.check depth session).calls = [] := by
  cases depth with
  | zero => rfl
  | succ depth =>
      have hfails : ¬setup.Passes session 0 := run_ne_ok_of_hasLongName (.inl h)
      rw [check_of_fails (Nat.succ_pos depth) hfails, calls_run_of_hasLongName h]

end Setup

namespace Checker

/-- Inputs are never built from letters without a value. If the names on the input side of a pattern
that was read are single letters then every draw gives each of its letters a value, and no trial that
makes no call fails for want of one. A pattern with a name of several letters on either side passes no
check of a trial or more, and with one on the input side the function is never called. -/
theorem inputs_never_built_from_unbound_letters {text : String} {pattern : Pattern}
    (hparse : Pattern.parse text = .ok pattern) (checker : Checker S α) (source : RandomSource σ α)
    (constraints : Constraints) (f : Callable κ ε S α) (session : Session σ κ) :
    let setup := checker.setup source pattern constraints f
    let start := checker.opening source session
    let report := checker.tryCheck source pattern constraints f session
    (¬pattern.inputs.HasLongName →
      (∀ state assignment state',
        Assignment.draw source pattern.inputs constraints checker.config.bound state =
            .ok (assignment, state') →
          ∀ tensor ∈ pattern.inputs.tensors,
            (∀ c ∈ tensor.letters, ∃ n, assignment.lookup c = some n) ∧
              ∀ expression name,
                tensor.shape assignment.lookup ≠ .error (.undefinedVariable expression name)) ∧
      ∀ n expression name,
        (setup.nth n start).outcome = .error (.rejected (.undefinedVariable expression name)) →
          (setup.nth n start).calls ≠ []) ∧
    (pattern.inputs.HasLongName ∨ pattern.outputs.HasLongName → 1 ≤ checker.config.depth →
      report.outcome ≠ .ok ()) ∧
    (pattern.inputs.HasLongName → report.calls = []) := by
  intro setup start report
  have hreport : report = setup.check checker.config.depth start := tryCheck_eq_check ..
  rw [hreport]
  refine ⟨fun hnames => ⟨fun state assignment state' hdraw tensor htensor => ⟨fun c hc => ?_,
    fun expression name => ?_⟩, fun n expression name houtcome hcalls => ?_⟩,
    fun hlong hdepth hpass => ?_, fun hlong => ?_⟩
  · exact (Assignment.drawn_of_draw hdraw).exists_lookup
      (Formula.mem_letters.2 ⟨tensor, htensor, hc⟩)
  · exact Pattern.shape_ne_undefined hparse hnames (Assignment.drawn_of_draw hdraw) htensor
  · exact Setup.run_ne_undefined hparse hnames hcalls houtcome
  · exact Setup.run_ne_ok_of_hasLongName hlong (Setup.check_passes_iff.1 hpass 0 hdepth)
  · exact Setup.calls_check_of_hasLongName hlong

/-- A name of two letters on the input side fails the check before the function is called, although
both letters have values. -/
theorem name_of_two_letters_is_never_called :
    let inputs : Formula :=
      ⟨"ab(ab)", [⟨.ofList [.letter 'a', .letter 'b', .group "(ab)" (.var "ab")], "ab(ab)"⟩]⟩
    let pattern : Pattern := ⟨"ab(ab)->a", inputs, ⟨"a", [⟨.ofList [.letter 'a'], "a"⟩]⟩⟩
    let checker : Checker HeapStorage Float := ⟨.heap, { fill := .zeros, bound := 8 }⟩
    let f : Callable Unit Empty HeapStorage Float := fun state inputs => (.ok ⟨inputs⟩, state)
    let report := checker.tryCheck (RandomSource.scripted (0 : Float)) pattern ∅ f
      ⟨⟨[], .empty⟩, ()⟩
    Pattern.parse "ab(ab) -> a" = .ok pattern ∧ pattern.inputs.HasLongName ∧
      report.outcome = .error (.rejected (.undefinedVariable "(ab)" "ab")) ∧ report.calls = [] := by
  intro inputs pattern checker f report
  have hparse : Pattern.parse "ab(ab) -> a" = .ok pattern := by decide +kernel
  have hlong : pattern.inputs.HasLongName :=
    ⟨_, List.mem_cons_self, "(ab)", .var "ab", by simp, "ab", by simp [Expr.nodes], by decide⟩
  exact ⟨hparse, hlong, by rfl, (inputs_never_built_from_unbound_letters hparse checker
    (RandomSource.scripted (0 : Float)) ∅ f ⟨⟨[], .empty⟩, ()⟩).2.2 hlong⟩

end Checker

end ShapeAssert
