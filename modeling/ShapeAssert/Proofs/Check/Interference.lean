import ShapeAssert.Proofs.Check.Drawing
import ShapeAssert.Proofs.Check.Lockstep
import ShapeAssert.Proofs.Formula.Variables

/-! A constraint on a letter that the input side does not have. Such a letter is neither drawn for nor
looked up while inputs are generated, so every trial draws the same values for all other letters,
generates the same inputs and leaves the source where it was left without the constraint. The letter
can only matter where the output side is judged, and if the output side does not have it either then
nothing changes at all. -/

namespace ShapeAssert

/-- The maps have the same values apart from that of one letter. -/
def LetterMap.AgreeApart {β : Type} (letter : Char) (left right : LetterMap β) : Prop :=
  ∀ c, c ≠ letter → left.lookup c = right.lookup c

theorem LetterMap.agreeApart_insert {β : Type} (map : LetterMap β) (letter : Char) (value : β) :
    map.AgreeApart letter (map.insert letter value) := by
  intro c hc
  rw [lookup_insert, if_neg hc]

/-- Two draws both refuse with the same error, or they give the same values apart from that of one
letter and come with the same rest. -/
inductive Assignment.DrawnAlike {β : Type} (letter : Char) :
    Except Error (Assignment × β) → Except Error (Assignment × β) → Prop where
  | refused (e : Error) : DrawnAlike letter (.error e) (.error e)
  | drawn {left right : Assignment} (rest : β) :
      left.AgreeApart letter right → DrawnAlike letter (.ok (left, rest)) (.ok (right, rest))

/-! ### Drawing and generating -/

section

variable {σ α : Type} {letter : Char} {formula : Formula} {constraints constraints' : Constraints}

theorem LetterMap.AgreeApart.lookup_eq {β : Type} {left right : LetterMap β}
    (h : left.AgreeApart letter right) {letters : LetterSet} (hletter : letter ∉ letters) :
    ∀ c ∈ letters, left.lookup c = right.lookup c := by
  intro c hc
  refine h c ?_
  rintro rfl
  exact hletter hc

variable (h : constraints.AgreeApart letter constraints') (hletter : letter ∉ formula.letters)
include h hletter

theorem Assignment.freeLetters_congr :
    freeLetters formula constraints = freeLetters formula constraints' := by
  refine List.filter_congr fun c hc => ?_
  rw [LetterMap.contains_eq_isSome_lookup, LetterMap.contains_eq_isSome_lookup,
    h.lookup_eq hletter c hc]

theorem Assignment.draw_alike (source : RandomSource σ α) (bound : Nat) (state : σ) :
    DrawnAlike letter (draw source formula constraints bound state)
      (draw source formula constraints' bound state) := by
  rw [draw, draw, ← freeLetters_congr h hletter]
  dsimp only
  split
  · exact .refused _
  · refine .drawn _ fun c hc => ?_
    rw [lookup_overlay, lookup_overlay, h c hc]

end

variable {S : Type → Type} [Storage S] {σ κ ε α : Type} [Element α]

theorem buildInputs_congr {backend : Backend S α} {source : RandomSource σ α} {fill : Fill}
    {left right : Binding} {formulas : List TensorFormula}
    (h : ∀ formula ∈ formulas, formula.shape left = formula.shape right) (room : Room σ) :
    buildInputs backend source fill left formulas room =
      buildInputs backend source fill right formulas room := by
  induction formulas generalizing room with
  | nil => rfl
  | cons formula formulas ih =>
      obtain ⟨hfirst, hrest⟩ := List.forall_mem_cons.1 h
      simp only [buildInputs, hfirst, ih hrest]

/-! ### Judging -/

namespace Formula

variable {strict : Bool} {left right : Assignment}

theorem checkExtent_congr {output axis extent : Nat} {dimension : Dimension}
    (h : ∀ c ∈ dimension.nameLetters, left.lookup c = right.lookup c) :
    checkExtent strict left output axis dimension extent =
      checkExtent strict right output axis dimension extent := by
  have hvalue := Dimension.value_congr h
  cases dimension with
  | letter c =>
      simp only [checkExtent, Dimension.letter?, Option.filter, hvalue,
        LetterMap.contains_eq_isSome_lookup, h c (List.mem_singleton_self c)]
  | group source e => simp only [checkExtent, Dimension.letter?, Option.filter, hvalue]

/-- The judgement of outputs depends on the values of the formula's letters alone. -/
theorem checkOutputs_congr {formula : Formula}
    (h : ∀ c ∈ formula.letters, left.lookup c = right.lookup c) (shapes : List Shape) :
    formula.checkOutputs strict left shapes = formula.checkOutputs strict right shapes := by
  rw [checkOutputs, checkOutputs, checkEach_eq_checkPairs, checkEach_eq_checkPairs]
  have heach : checkPairs (checkOutput strict left) 0 formula.tensors shapes =
      checkPairs (checkOutput strict right) 0 formula.tensors shapes := by
    refine checkPairs_congr fun output tensor shape htensor => ?_
    rw [checkOutput, checkOutput, checkAxes_eq_checkPairs, checkAxes_eq_checkPairs]
    have haxes : checkPairs (checkExtent strict left (0 + output)) 0 tensor.dimensions shape =
        checkPairs (checkExtent strict right (0 + output)) 0 tensor.dimensions shape := by
      refine checkPairs_congr fun axis dimension extent haxis => checkExtent_congr fun c hc => ?_
      have hmem := TensorFormula.mem_letters_of_nameLetters (List.mem_of_getElem? haxis.1) hc
      exact h c (mem_letters.2 ⟨tensor, List.mem_of_getElem? htensor.1, hmem⟩)
    rw [haxes]
  rw [heach]

end Formula

omit [Storage S] [Element α] in
theorem judge_congr {strict : Bool} {left right : Assignment} {formula : Formula}
    (h : ∀ c ∈ formula.letters, left.lookup c = right.lookup c)
    (result : Except ε (Outputs (Tensor S α))) :
    judge strict left formula result = judge strict right formula result := by
  cases result with
  | error cause => rfl
  | ok outputs => rw [judge, judge, Formula.checkOutputs_congr h]

/-! ### Trials -/

/-- Two calls differ in nothing but the value of one letter. -/
structure Call.AgreeApart (letter : Char) (left right : Call ε S α) : Prop where
  assignment : left.assignment.AgreeApart letter right.assignment
  inputs : left.inputs = right.inputs
  result : left.result = right.result
  directory : left.directory = right.directory

namespace Setup

/-- The check with other constraints. -/
def withConstraints (setup : Setup σ κ ε S α) (constraints : Constraints) : Setup σ κ ε S α :=
  { setup with constraints }

variable {setup : Setup σ κ ε S α} {constraints : Constraints} {letter : Char}
  (h : setup.constraints.AgreeApart letter constraints)
  (hletter : letter ∉ setup.pattern.inputs.letters)
include h hletter

/-- Values are drawn and inputs generated alike. -/
theorem preparation_alike (session : Session σ κ) :
    Assignment.DrawnAlike letter (setup.preparation session)
      ((setup.withConstraints constraints).preparation session) := by
  have hdraw := Assignment.draw_alike h hletter setup.source setup.config.bound session.room.random
  rw [preparation, preparation]
  dsimp only [withConstraints]
  generalize Assignment.draw setup.source setup.pattern.inputs setup.constraints setup.config.bound
    session.room.random = drawn at hdraw ⊢
  generalize Assignment.draw setup.source setup.pattern.inputs constraints setup.config.bound
    session.room.random = drawn' at hdraw ⊢
  cases hdraw with
  | refused e => exact .refused e
  | @drawn left right random hagree =>
      have hshapes : ∀ formula ∈ setup.pattern.inputs.tensors,
          formula.shape left.lookup = formula.shape right.lookup := fun formula hformula =>
        TensorFormula.shape_congr fun c hc =>
          hagree.lookup_eq hletter c (Formula.mem_letters.2 ⟨formula, hformula, hc⟩)
      dsimp only [Except.map]
      rw [buildInputs_congr hshapes]
      exact .drawn _ hagree

/-- Trials make the same calls, apart from the value of the letter, and leave the same session. Their
outcome is the same if the letter is not judged. -/
theorem run_alike (session : Session σ κ) :
    List.Forall₂ (Call.AgreeApart letter) (setup.run session).calls
        ((setup.withConstraints constraints).run session).calls ∧
      (setup.run session).session = ((setup.withConstraints constraints).run session).session ∧
      (letter ∉ setup.pattern.outputs.letters →
        (setup.run session).outcome = ((setup.withConstraints constraints).run session).outcome) := by
  have hprepared := preparation_alike h hletter session
  rw [run_eq_preparation, run_eq_preparation]
  generalize setup.preparation session = prepared at hprepared ⊢
  generalize (setup.withConstraints constraints).preparation session = prepared' at hprepared ⊢
  cases hprepared with
  | refused e => exact ⟨.nil, rfl, fun _ => rfl⟩
  | drawn rest hagree =>
      obtain ⟨e | inputs, room⟩ := rest
      · exact ⟨.nil, rfl, fun _ => rfl⟩
      · exact ⟨.cons ⟨hagree, rfl, rfl, rfl⟩ .nil, rfl, fun houtput =>
          judge_congr (hagree.lookup_eq houtput) _⟩

end Setup

namespace Checker

/-- A constraint on a letter that the input side does not have disturbs no trial. Each trial starts from
the same session, draws the same values for all other letters, generates the same inputs or fails to
with the same error, and leaves the random source in the same state; so the calls that both checks
make are the same apart from the value of the letter. If the output side does not have the letter
either, the checks have the same outcome after the same number of calls. -/
theorem constraint_elsewhere_disturbs_no_trial (checker : Checker S α) (source : RandomSource σ α)
    (pattern : Pattern) (constraints : Constraints) (f : Callable κ ε S α) (session : Session σ κ)
    {letter : Char} (hletter : letter ∉ pattern.inputs.letters) (value : Int) :
    let plain := checker.setup source pattern constraints f
    let extended := checker.setup source pattern (constraints.insert letter value) f
    let start := checker.opening source session
    let report := checker.tryCheck source pattern constraints f session
    let report' := checker.tryCheck source pattern (constraints.insert letter value) f session
    (∀ n, plain.before n start = extended.before n start ∧
      Assignment.DrawnAlike letter (plain.preparation (plain.before n start))
        (extended.preparation (extended.before n start))) ∧
    (∀ n call call', PairAt report.calls report'.calls n call call' →
      call.AgreeApart letter call') ∧
    (letter ∉ pattern.outputs.letters →
      report.outcome = report'.outcome ∧ report.calls.length = report'.calls.length ∧
        List.Forall₂ (Call.AgreeApart letter) report.calls report'.calls ∧
        report.session = report'.session) := by
  intro plain extended start report report'
  have hagree : plain.constraints.AgreeApart letter (constraints.insert letter value) :=
    constraints.agreeApart_insert letter value
  have hrun (session : Session σ κ) := Setup.run_alike hagree hletter session
  have hsession (session : Session σ κ) := (hrun session).2.1
  refine ⟨fun n => ?_, fun n call call' hpair => ?_, fun houtput => ?_⟩
  · have hbefore : plain.before n start = extended.before n start :=
      Setup.before_congr hsession n start
    refine ⟨hbefore, ?_⟩
    rw [← hbefore]
    exact Setup.preparation_alike hagree hletter _
  · exact Setup.calls_of_pairAt hsession (fun session => (hrun session).1) hpair
  · have halike (session : Session σ κ) :
        (plain.run session).Alike (Call.AgreeApart letter) (extended.run session) :=
      ⟨(hrun session).2.2 houtput, (hrun session).1, hsession session⟩
    obtain ⟨houtcome, hcalls, hleft⟩ := Setup.check_alike halike checker.config.depth start
    exact ⟨houtcome, hcalls.length_eq, hcalls, hleft⟩

/-- A constraint on a letter that the pattern does not have leaves the failure of a check as it is. -/
theorem constraint_elsewhere_keeps_failure :
    let pattern : Pattern :=
      ⟨"bc->cb", ⟨"bc", [⟨.ofList [.letter 'b', .letter 'c'], "bc"⟩]⟩,
        ⟨"cb", [⟨.ofList [.letter 'c', .letter 'b'], "cb"⟩]⟩⟩
    let checker : Checker HeapStorage Float := ⟨.heap, { fill := .zeros, bound := 8 }⟩
    let f : Callable Unit Empty HeapStorage Float := fun state inputs => (.ok ⟨inputs⟩, state)
    let report (constraints : Constraints) := checker.tryCheck (RandomSource.scripted (0 : Float))
      pattern constraints f ⟨⟨[], .empty⟩, ()⟩
    'n' ∉ pattern.inputs.letters ∧ 'n' ∉ pattern.outputs.letters ∧
      (report (LetterMap.insert ∅ 'n' 3)).outcome =
        .error (.rejected (.shapeMismatch 0 0 "c" 7 5)) := by
  intro pattern checker f report
  have hinput : 'n' ∉ pattern.inputs.letters := by decide
  have houtput : 'n' ∉ pattern.outputs.letters := by decide
  have hsame := ((constraint_elsewhere_disturbs_no_trial checker (RandomSource.scripted (0 : Float))
    pattern ∅ f ⟨⟨[], .empty⟩, ()⟩ hinput 3).2.2 houtput).1
  exact ⟨hinput, houtput, hsame.symm.trans rfl⟩

end Checker

end ShapeAssert
