import ShapeAssert.Proofs.Check.Routing

/-! Functions that return their inputs. Such a function copies every extent from the letter at the
same place, so it passes only where the output side repeats the input side, and a pattern that moves
a letter to another place catches it in the first trial. -/

namespace ShapeAssert

namespace Formula

/-- The dimensions of the tensors without the text they were read from. -/
def dimensionLists (formula : Formula) : List (List Dimension) :=
  formula.tensors.map (·.dimensions)

def ranks (formula : Formula) : List Nat :=
  formula.tensors.map (·.rank)

/-- The bare letter for an axis of a tensor, or any letter if there is none. -/
def letterAt (formula : Formula) (tensor axis : Nat) : Char :=
  match formula.dimensionAt? tensor axis with
  | some (.letter c) => c
  | _ => default

variable {formula inputs outputs : Formula}

theorem letterAt_of_dimensionAt {tensor axis : Nat} {c : Char}
    (h : formula.dimensionAt? tensor axis = some (.letter c)) : formula.letterAt tensor axis = c := by
  rw [letterAt, h]

theorem dimensionAt_eq_bind (formula : Formula) (tensor axis : Nat) :
    formula.dimensionAt? tensor axis = formula.dimensionLists[tensor]?.bind (·[axis]?) := by
  rw [dimensionAt?, dimensionLists, List.getElem?_map, Option.bind_map]
  rfl

theorem map_length_dimensionLists (formula : Formula) :
    formula.dimensionLists.map List.length = formula.ranks := by
  rw [dimensionLists, ranks, List.map_map]
  rfl

theorem Bare.letter_of_dimensionAt (hbare : formula.Bare) {tensor axis : Nat} {dimension : Dimension}
    (h : formula.dimensionAt? tensor axis = some dimension) : ∃ c, dimension = .letter c := by
  obtain ⟨tensorFormula, htensor, hdimension⟩ := Option.bind_eq_some_iff.1 h
  exact hbare _ (List.mem_of_getElem? htensor) _ (List.mem_of_getElem? hdimension)

/-- The letters of one side are at the same places on the other exactly if the sides are equal. -/
theorem routed_letterAt_iff (hinputs : inputs.Bare) (houtputs : outputs.Bare)
    (hranks : outputs.ranks = inputs.ranks) :
    outputs.Routed inputs.letterAt ↔ outputs.dimensionLists = inputs.dimensionLists := by
  constructor
  · intro hrouted
    have hlengths :
        outputs.dimensionLists.map List.length = inputs.dimensionLists.map List.length := by
      rw [map_length_dimensionLists, map_length_dimensionLists, hranks]
    rw [← List.forall₂_eq_eq_eq, forall₂_iff_pairAt]
    refine ⟨by simpa using congrArg List.length hlengths, fun tensor left right hpair => ?_⟩
    have hlength : left.length = right.length := by
      have hat := congrArg (·[tensor]?) hlengths
      simpa [hpair.1, hpair.2] using hat
    rw [← List.forall₂_eq_eq_eq, forall₂_iff_pairAt]
    refine ⟨hlength, fun axis dimension dimension' haxis => ?_⟩
    have hleft : outputs.dimensionAt? tensor axis = some dimension := by
      rw [dimensionAt_eq_bind, hpair.1]
      exact haxis.1
    have hright : inputs.dimensionAt? tensor axis = some dimension' := by
      rw [dimensionAt_eq_bind, hpair.2]
      exact haxis.2
    obtain ⟨c, rfl⟩ := houtputs.letter_of_dimensionAt hleft
    obtain ⟨d, rfl⟩ := hinputs.letter_of_dimensionAt hright
    rw [← hrouted tensor axis c hleft, letterAt_of_dimensionAt hright]
  · intro heq output axis c hc
    rw [dimensionAt_eq_bind, heq, ← dimensionAt_eq_bind] at hc
    exact letterAt_of_dimensionAt hc

end Formula

variable {S : Type → Type} {σ κ ε α : Type}

/-- The function that returns its inputs. -/
def echo : Callable κ ε S α :=
  fun state inputs => (.ok ⟨inputs⟩, state)

theorem forall₂_rank_iff {formulas : List TensorFormula} {tensors : List (Tensor S α)} :
    List.Forall₂ (fun formula tensor => tensor.rank = formula.rank) formulas tensors ↔
      tensors.map (·.rank) = formulas.map (·.rank) := by
  rw [eq_comm, ← List.forall₂_eq_eq_eq, List.forall₂_map_left_iff, List.forall₂_map_right_iff]
  simp only [eq_comm]

variable [Storage S]

/-- Tensors with the shapes of formulas have their ranks. -/
theorem ranks_of_shapes {binding : Binding} {formulas : List TensorFormula}
    {tensors : List (Tensor S α)}
    (h : List.Forall₂
      (fun formula tensor => tensor.WellFormed ∧ formula.shape binding = .ok tensor.shape) formulas
      tensors) : tensors.map (·.rank) = formulas.map (·.rank) := by
  refine forall₂_rank_iff.1 (h.imp fun formula tensor hshape => ?_)
  exact (TensorFormula.shape_eq_ok.1 hshape.2).2.length_eq.symm

theorem copies_echo {pattern : Pattern} (hinputs : pattern.inputs.Bare)
    (hranks : pattern.outputs.ranks = pattern.inputs.ranks) :
    pattern.Copies pattern.inputs.letterAt (echo : Callable κ ε S α) := by
  intro state inputs binding hshapes
  refine ⟨⟨inputs⟩, rfl, ?_, fun output axis extent hextent => ⟨output, axis, ?_, hextent⟩⟩
  · rw [forall₂_rank_iff, ranks_of_shapes hshapes]
    exact hranks.symm
  · obtain ⟨hcount, hall⟩ := forall₂_iff_pairAt.1 hshapes
    obtain ⟨shape, hshape, hextent⟩ := Option.bind_eq_some_iff.1 hextent
    obtain ⟨formula, hshape, hformula⟩ := exists_pairAt (by simpa using hcount.symm) hshape
    obtain ⟨tensor, hpair, rfl⟩ := pairAt_map_right.1 ⟨hformula, hshape⟩
    obtain ⟨-, hvalues⟩ := TensorFormula.shape_eq_ok.1 (hall output formula tensor hpair).2
    obtain ⟨dimension, -, hdimension⟩ := exists_pairAt hvalues.length_eq.symm hextent
    have hat : pattern.inputs.dimensionAt? output axis = some dimension :=
      Option.bind_eq_some_iff.2 ⟨formula, hformula, hdimension⟩
    obtain ⟨c, rfl⟩ := hinputs.letter_of_dimensionAt hat
    rw [hat, Formula.letterAt_of_dimensionAt hat]

namespace Setup

variable {setup : Setup σ κ ε S α} {session : Session σ κ}

theorem copiesAlong_of_echo (hf : setup.f = echo) (hconstraints : setup.constraints = ∅)
    (hinputs : setup.pattern.inputs.Bare) (houtputs : setup.pattern.outputs.Bare)
    (hletters : ∀ c ∈ setup.pattern.outputs.letters, c ∈ setup.pattern.inputs.letters)
    (hranks : setup.pattern.outputs.ranks = setup.pattern.inputs.ranks) :
    setup.CopiesAlong setup.pattern.inputs.letterAt :=
  ⟨hconstraints, houtputs, hletters, hf ▸ copies_echo hinputs hranks⟩

variable [Element α]

theorem Calls.outcome_of_echo {call : Call ε S α} (hcalls : setup.Calls session call)
    (hf : setup.f = echo) :
    (setup.run session).outcome =
      (setup.pattern.outputs.checkOutputs setup.config.strict call.assignment
        (call.inputs.map (·.shape))).mapError .rejected := by
  have happlied := hcalls.applied
  rw [hf] at happlied
  exact hcalls.outcome_of_ok (congrArg Prod.fst happlied).symm

/-- Inputs that pass as outputs have the ranks of the output side. -/
theorem Calls.ranks_of_passes {call : Call ε S α} (hcalls : setup.Calls session call)
    (hf : setup.f = echo) (hpass : (setup.run session).outcome = .ok ()) :
    setup.pattern.outputs.ranks = setup.pattern.inputs.ranks := by
  rw [hcalls.outcome_of_echo hf, mapError_eq_ok, Formula.checkOutputs_eq_ok] at hpass
  have hcount := hpass.1.symm
  rw [List.length_map] at hcount
  have hranks : List.Forall₂ (fun formula tensor => tensor.rank = formula.rank)
      setup.pattern.outputs.tensors call.inputs := by
    refine forall₂_iff_pairAt.2 ⟨hcount, fun output formula tensor hpair => ?_⟩
    exact (hpass.2 output formula tensor.shape (pairAt_map_right.2 ⟨tensor, hpair, rfl⟩)).1
  exact (forall₂_rank_iff.1 hranks).symm.trans (ranks_of_shapes hcalls.shapes)

section Echo

variable (hf : setup.f = echo) (hconstraints : setup.constraints = ∅)
  (hinputs : setup.pattern.inputs.Bare) (houtputs : setup.pattern.outputs.Bare)
  (hletters : ∀ c ∈ setup.pattern.outputs.letters, c ∈ setup.pattern.inputs.letters)
include hf hconstraints hinputs houtputs hletters

theorem run_echo_passes_iff
    (hprepares : ∃ assignment inputs, setup.Prepares session assignment inputs) :
    (setup.run session).outcome = .ok () ↔
      setup.pattern.outputs.dimensionLists = setup.pattern.inputs.dimensionLists := by
  have hiff (hranks : setup.pattern.outputs.ranks = setup.pattern.inputs.ranks) :
      (setup.run session).outcome = .ok () ↔
        setup.pattern.outputs.dimensionLists = setup.pattern.inputs.dimensionLists := by
    rw [(copiesAlong_of_echo hf hconstraints hinputs houtputs hletters hranks).run_passes_iff
      hprepares, Formula.routed_letterAt_iff hinputs houtputs hranks]
  constructor
  · intro hpass
    obtain ⟨call, -, hcalls⟩ := exists_call hprepares
    exact (hiff (hcalls.ranks_of_passes hf hpass)).1 hpass
  · intro heq
    refine (hiff ?_).2 heq
    rw [← Formula.map_length_dimensionLists, heq, Formula.map_length_dimensionLists]

variable {depth : Nat} (hdepth : 1 ≤ depth)
include hdepth

/-- Returning the inputs passes exactly if the output side repeats the input side. -/
theorem check_echo_passes_iff (hprepares : setup.AlwaysPrepares depth session) :
    (setup.check depth session).outcome = .ok () ↔
      setup.pattern.outputs.dimensionLists = setup.pattern.inputs.dimensionLists := by
  have hiff {n : Nat} (hn : n < depth) (hreached : setup.Reached session n) :=
    run_echo_passes_iff hf hconstraints hinputs houtputs hletters (hprepares n hn hreached)
  rw [check_passes_iff]
  constructor
  · intro hreached
    exact (hiff hdepth (setup.reached_zero session)).1 (hreached 0 hdepth)
  · intro heq
    rcases reached_or_first_failure setup session depth with hall | ⟨n, hn, hreached, hfails⟩
    · exact hall
    · exact absurd ((hiff hn hreached).2 heq) hfails

/-- Otherwise it fails after one call, and if the ranks are right at the first place with another
letter. -/
theorem check_echo_fails (hfirst : ∃ assignment inputs, setup.Prepares session assignment inputs)
    (hne : setup.pattern.outputs.dimensionLists ≠ setup.pattern.inputs.dimensionLists) :
    (setup.check depth session).calls.length = 1 ∧
      (∃ e, (setup.check depth session).outcome = .error (.rejected e)) ∧
      (setup.pattern.outputs.ranks = setup.pattern.inputs.ranks →
        (setup.check depth session).FailsAtFirstMisrouted setup.pattern.inputs.letterAt
          setup.pattern.outputs) := by
  have hfails : ¬setup.Passes session 0 := fun hpass =>
    hne ((run_echo_passes_iff hf hconstraints hinputs houtputs hletters hfirst).1 hpass)
  refine ⟨?_, ?_, fun hranks => ?_⟩
  · obtain ⟨call, hcall, -⟩ := exists_call hfirst
    rw [check_of_fails hdepth hfails, hcall]
    rfl
  · obtain ⟨call, -, hcalls⟩ := exists_call hfirst
    rw [check_of_fails hdepth hfails]
    cases hcheck : setup.pattern.outputs.checkOutputs setup.config.strict call.assignment
        (call.inputs.map (·.shape)) with
    | error e => exact ⟨e, by rw [hcalls.outcome_of_echo hf, hcheck]; rfl⟩
    | ok =>
        have hpass : (setup.run session).outcome = .ok () := by
          rw [hcalls.outcome_of_echo hf, hcheck]
          rfl
        exact absurd hpass hfails
  · have halong := copiesAlong_of_echo hf hconstraints hinputs houtputs hletters hranks
    refine (halong.check_fails hdepth hfirst fun hrouted => hne ?_).2
    exact (Formula.routed_letterAt_iff hinputs houtputs hranks).1 hrouted

end Echo

end Setup

namespace Checker

variable [Element α]

/-- Misrouted axes are caught. On a pattern of bare letters without constraints, a function that
copies extents along a route passes every trial exactly if the route names the letters of the output
side, and otherwise the check ends with its first trial, at the first place where it names another.
Returning the inputs passes only if the output side repeats the input side. -/
theorem tryCheck_catches_misrouted_axes (checker : Checker S α) (source : RandomSource σ α)
    (pattern : Pattern) (f : Callable κ ε S α) (route : Nat → Nat → Char) (session : Session σ κ)
    (hinputs : pattern.inputs.Bare) (houtputs : pattern.outputs.Bare)
    (hletters : ∀ c ∈ pattern.outputs.letters, c ∈ pattern.inputs.letters)
    (hdepth : 1 ≤ checker.config.depth) (hcopies : pattern.Copies route f)
    (hprepares : (checker.setup source pattern ∅ f).AlwaysPrepares checker.config.depth
      (checker.opening source session)) :
    let setup := checker.setup source pattern ∅ f
    let start := checker.opening source session
    let depth := checker.config.depth
    let report := checker.tryCheck source pattern ∅ f session
    let echoed := checker.tryCheck source pattern ∅ (echo : Callable κ ε S α) session
    (setup.Reached start depth ↔ pattern.outputs.Routed route) ∧
      (report.outcome = .ok () ↔ pattern.outputs.Routed route) ∧
      (¬pattern.outputs.Routed route →
        report = setup.nth 0 start ∧ report.FailsAtFirstMisrouted route pattern.outputs) ∧
      ((checker.setup source pattern ∅ (echo : Callable κ ε S α)).AlwaysPrepares depth start →
        (echoed.outcome = .ok () ↔
          pattern.outputs.dimensionLists = pattern.inputs.dimensionLists)) ∧
      (pattern.outputs.dimensionLists ≠ pattern.inputs.dimensionLists →
        echoed.calls.length = 1 ∧ (∃ e, echoed.outcome = .error (.rejected e)) ∧
          (pattern.outputs.ranks = pattern.inputs.ranks →
            echoed.FailsAtFirstMisrouted pattern.inputs.letterAt pattern.outputs)) := by
  intro setup start depth report echoed
  have halong : setup.CopiesAlong route := ⟨rfl, houtputs, hletters, hcopies⟩
  have hfirst := hprepares.first hdepth
  have hreached := halong.reached_iff hprepares hdepth
  have hreport : report = setup.check depth start := tryCheck_eq_check ..
  have hechoed : echoed = (checker.setup source pattern ∅ echo).check depth start :=
    tryCheck_eq_check ..
  rw [hreport, hechoed, Setup.check_passes_iff]
  refine ⟨hreached, hreached, fun hroute => halong.check_fails hdepth hfirst hroute,
    fun hprepares' => ?_, fun hne => ?_⟩
  · exact Setup.check_echo_passes_iff rfl rfl hinputs houtputs hletters hdepth hprepares'
  · exact Setup.check_echo_fails rfl rfl hinputs houtputs hletters hdepth hfirst hne

/-- Returning the input does not pass for a transposition. -/
theorem tryCheck_catches_missing_transpose :
    let side (text : String) : Formula :=
      ⟨text, [⟨.ofList (text.toList.map Dimension.letter), text⟩]⟩
    let pattern : Pattern := ⟨"bc->cb", side "bc", side "cb"⟩
    let checker : Checker HeapStorage Float := ⟨.heap, { fill := .zeros, bound := 8 }⟩
    let source := RandomSource.scripted (0 : Float)
    let session : Session (List Nat) Unit := ⟨⟨[], .empty⟩, ()⟩
    let f : Callable Unit Empty HeapStorage Float := echo
    let report := checker.tryCheck source pattern ∅ f session
    ¬pattern.outputs.Routed pattern.inputs.letterAt ∧
      report.FailsAtFirstMisrouted pattern.inputs.letterAt pattern.outputs := by
  intro side pattern checker source session f report
  have hbare (text : String) : (side text).Bare := by
    simp [side, Formula.Bare]
  have hsame : pattern.outputs.letters = pattern.inputs.letters := by decide
  have hletters : ∀ c ∈ pattern.outputs.letters, c ∈ pattern.inputs.letters :=
    fun c hc => hsame ▸ hc
  have hprepares : (checker.setup source pattern ∅ f).AlwaysPrepares checker.config.depth
      (checker.opening source session) := by
    intro n hn _
    obtain rfl := Nat.lt_one_iff.1 hn
    exact ⟨_, _, _, _, rfl, rfl⟩
  have hroute : ¬pattern.outputs.Routed pattern.inputs.letterAt := by
    intro h
    exact absurd (h 0 0 'c' rfl) (by decide)
  refine ⟨hroute, ?_⟩
  exact ((tryCheck_catches_misrouted_axes checker source pattern f pattern.inputs.letterAt session
    (hbare _) (hbare _) hletters (Nat.le_refl 1) (copies_echo (hbare _) rfl) hprepares).2.2.1
      hroute).2

end Checker

end ShapeAssert
