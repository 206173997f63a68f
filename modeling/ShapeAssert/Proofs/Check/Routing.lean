import ShapeAssert.Proofs.Check.Outputs
import ShapeAssert.Proofs.Check.Trials

/-! Axes that reach the wrong place. On a pattern of bare letters without constraints every letter has
a prime of its own, so an extent tells from which letter it was copied. A function that copies extents
passes exactly if it copies each from the letter that the pattern has at its place, and otherwise
fails in the first trial, at the first place with another letter. -/

namespace ShapeAssert

/-- The extent on an axis of one of several shapes. -/
def extentAt? (shapes : List Shape) (tensor axis : Nat) : Option Nat :=
  shapes[tensor]?.bind (·[axis]?)

namespace Formula

/-- The dimension that a formula has for an axis of one of its tensors. -/
def dimensionAt? (formula : Formula) (tensor axis : Nat) : Option Dimension :=
  formula.tensors[tensor]?.bind (·.dimensions[axis]?)

/-- Every dimension is a bare letter. -/
def Bare (formula : Formula) : Prop :=
  ∀ tensor ∈ formula.tensors, ∀ dimension ∈ tensor.dimensions, ∃ c, dimension = .letter c

/-- The letters that a route names are those of the formula. -/
def Routed (route : Nat → Nat → Char) (formula : Formula) : Prop :=
  ∀ output axis c, formula.dimensionAt? output axis = some (.letter c) → route output axis = c

/-- The first place, by output and then axis, where a route names another letter. -/
structure FirstMisrouted (route : Nat → Nat → Char) (formula : Formula) (output axis : Nat)
    (c : Char) : Prop where
  letter : formula.dimensionAt? output axis = some (.letter c)
  differs : route output axis ≠ c
  earlier : ∀ output' axis' c', output' < output ∨ output' = output ∧ axis' < axis →
    formula.dimensionAt? output' axis' = some (.letter c') → route output' axis' = c'

/-- Shapes of the formula's ranks in which every extent is the value of the letter that a route
names. -/
structure Carries (route : Nat → Nat → Char) (assignment : Assignment) (formula : Formula)
    (shapes : List Shape) : Prop where
  ranks : List.Forall₂ (fun tensor (shape : Shape) => shape.length = tensor.rank) formula.tensors
    shapes
  extents : ∀ output axis extent, extentAt? shapes output axis = some extent →
    assignment.lookup (route output axis) = some (extent : Int)

theorem mem_letters_of_dimensionAt {formula : Formula} {tensor axis : Nat} {c : Char}
    (h : formula.dimensionAt? tensor axis = some (.letter c)) : c ∈ formula.letters := by
  obtain ⟨tensorFormula, htensor, hdimension⟩ := Option.bind_eq_some_iff.1 h
  refine LetterSet.mem_ofList.2
    (List.mem_flatMap.2 ⟨tensorFormula, List.mem_of_getElem? htensor, ?_⟩)
  exact Axes.mem_letters.2 ⟨_, List.mem_of_getElem? hdimension, List.mem_singleton_self c⟩

section Pairs

variable {formula : Formula} {shapes : List Shape} {output axis extent : Nat}
  {tensor : TensorFormula} {shape : Shape} {dimension : Dimension}

theorem dimensionAt_of_pairAt (htensor : PairAt formula.tensors shapes output tensor shape)
    (haxis : PairAt tensor.dimensions shape axis dimension extent) :
    formula.dimensionAt? output axis = some dimension ∧
      extentAt? shapes output axis = some extent := by
  rw [dimensionAt?, extentAt?, htensor.1, htensor.2]
  exact haxis

theorem Bare.letter_of_pairAt (hbare : formula.Bare)
    (htensor : PairAt formula.tensors shapes output tensor shape)
    (haxis : PairAt tensor.dimensions shape axis dimension extent) : ∃ c, dimension = .letter c :=
  hbare _ (List.mem_of_getElem? htensor.1) _ (List.mem_of_getElem? haxis.1)

end Pairs

theorem Carries.exists_pairAt {route : Nat → Nat → Char} {assignment : Assignment}
    {formula : Formula} {shapes : List Shape} (h : formula.Carries route assignment shapes)
    {output axis : Nat} {dimension : Dimension}
    (hdimension : formula.dimensionAt? output axis = some dimension) :
    ∃ tensor shape extent, PairAt formula.tensors shapes output tensor shape ∧
      PairAt tensor.dimensions shape axis dimension extent := by
  obtain ⟨hcount, hranks⟩ := forall₂_iff_pairAt.1 h.ranks
  obtain ⟨tensor, htensor, haxis⟩ := Option.bind_eq_some_iff.1 hdimension
  obtain ⟨shape, hshape⟩ := ShapeAssert.exists_pairAt hcount htensor
  obtain ⟨extent, hextent⟩ := ShapeAssert.exists_pairAt (hranks _ _ _ hshape).symm haxis
  exact ⟨tensor, shape, extent, hshape, hextent⟩

theorem value_letter_eq_ok {binding : Binding} {c : Char} {value : Int} :
    (Dimension.letter c).value binding = .ok value ↔ binding c = some value := by
  rw [Dimension.value]
  cases binding c <;> simp

namespace Carries

variable {route : Nat → Nat → Char} {assignment : Assignment} {inputs formula : Formula}
  {bound : Nat} {shapes : List Shape} {strict : Bool}
  (hcarries : formula.Carries route assignment shapes)
  (hdrawn : Assignment.Drawn inputs ∅ bound assignment)
include hcarries hdrawn

/-- An extent fits a letter exactly if it was copied from that letter. -/
theorem fits_iff {c : Char} (hc : c ∈ inputs.letters) {output axis extent : Nat}
    (hextent : extentAt? shapes output axis = some extent) :
    (Dimension.letter c).Fits strict assignment extent ↔ route output axis = c := by
  rw [Dimension.Fits, value_letter_eq_ok,
    hdrawn.lookup_eq_iff (hcarries.extents output axis extent hextent)]
  refine or_iff_right ?_
  rintro ⟨-, letter, hletter, hunbound⟩
  obtain rfl := Dimension.letter.inj hletter
  obtain ⟨value, hvalue⟩ := hdrawn.exists_lookup hc
  rw [LetterMap.contains_eq_isSome_lookup, hvalue] at hunbound
  cases hunbound

variable (hbare : formula.Bare) (hletters : ∀ c ∈ formula.letters, c ∈ inputs.letters)
include hletters

theorem fits_of_pairAt_iff {output axis extent : Nat} {tensor : TensorFormula} {shape : Shape}
    {c : Char} (htensor : PairAt formula.tensors shapes output tensor shape)
    (haxis : PairAt tensor.dimensions shape axis (.letter c) extent) :
    (Dimension.letter c).Fits strict assignment extent ↔ route output axis = c := by
  obtain ⟨hdimension, hextent⟩ := dimensionAt_of_pairAt htensor haxis
  exact hcarries.fits_iff hdrawn (hletters c (mem_letters_of_dimensionAt hdimension)) hextent

include hbare

/-- Outputs that a route copies pass exactly if the route is that of the formula. -/
theorem checkOutputs_eq_ok :
    formula.checkOutputs strict assignment shapes = .ok () ↔ formula.Routed route := by
  obtain ⟨hcount, hranks⟩ := forall₂_iff_pairAt.1 hcarries.ranks
  rw [Formula.checkOutputs_eq_ok]
  constructor
  · rintro ⟨-, hfits⟩ output axis c hc
    obtain ⟨tensor, shape, extent, htensor, haxis⟩ := hcarries.exists_pairAt hc
    exact (hcarries.fits_of_pairAt_iff hdrawn hletters htensor haxis).1
      ((hfits output tensor shape htensor).2 axis _ extent haxis)
  · intro hrouted
    refine ⟨hcount.symm, fun output tensor shape htensor =>
      ⟨hranks output tensor shape htensor, fun axis dimension extent haxis => ?_⟩⟩
    obtain ⟨c, rfl⟩ := hbare.letter_of_pairAt htensor haxis
    exact (hcarries.fits_of_pairAt_iff hdrawn hletters htensor haxis).2
      (hrouted output axis c (dimensionAt_of_pairAt htensor haxis).1)

variable (strict) in
/-- The error of another route is at the first place where it names another letter. -/
theorem checkOutputs_eq_error (h : ¬formula.Routed route) :
    ∃ output axis c, ∃ (expected : Int) (actual : Nat),
      formula.FirstMisrouted route output axis c ∧ assignment.lookup c = some expected ∧
      assignment.lookup (route output axis) = some (actual : Int) ∧ expected ≠ actual ∧
      formula.checkOutputs strict assignment shapes =
        .error (.shapeMismatch output axis c.toString expected actual) := by
  obtain ⟨hcount, hranks⟩ := forall₂_iff_pairAt.1 hcarries.ranks
  cases hcheck : formula.checkOutputs strict assignment shapes with
  | ok =>
      exact absurd ((hcarries.checkOutputs_eq_ok hdrawn hbare hletters).1 hcheck) h
  | error e =>
      obtain hne | @⟨output, tensor, shape, _, -, hbefore, htensor, hoffends⟩ :=
        Formula.checkOutputs_eq_error.1 hcheck
      · exact absurd hcount.symm hne
      obtain hne | @⟨axis, dimension, extent, _, hrank, hbeforeAxis, haxis, hoffends⟩ := hoffends
      · exact absurd (hranks output tensor shape htensor) hne
      obtain ⟨c, rfl⟩ := hbare.letter_of_pairAt htensor haxis
      obtain ⟨hdimension, hextent⟩ := dimensionAt_of_pairAt htensor haxis
      have hactual := hcarries.extents output axis extent hextent
      obtain ⟨expected, hexpected⟩ :=
        hdrawn.exists_lookup (hletters c (mem_letters_of_dimensionAt hdimension))
      -- The letter has a value, so the only offence left is that of another value.
      obtain ⟨-, hunbound⟩ | ⟨-, hnone⟩ | @⟨_, _, value, hvalue, hne⟩ := hoffends
      · rw [LetterMap.contains_eq_isSome_lookup, hexpected] at hunbound
        cases hunbound
      · rw [value_letter_eq_ok.2 hexpected] at hnone
        cases hnone
      have hvalue := value_letter_eq_ok.1 hvalue
      refine ⟨output, axis, c, value, extent, ⟨hdimension, ?_, ?_⟩, hvalue, hactual, hne, rfl⟩
      · rintro rfl
        exact hne (Option.some.inj (hvalue.symm.trans hactual))
      · intro output' axis' c' hbefore' hdimension'
        obtain ⟨tensor', shape', extent', htensor', haxis'⟩ := hcarries.exists_pairAt hdimension'
        have hfits : (Dimension.letter c').Fits strict assignment extent' := by
          rcases hbefore' with hlt | ⟨rfl, hlt⟩
          · exact (hbefore output' hlt tensor' shape' htensor').2 axis' _ extent' haxis'
          · obtain ⟨rfl, rfl⟩ := htensor.unique htensor'
            exact hbeforeAxis axis' hlt _ extent' haxis'
        exact (hcarries.fits_of_pairAt_iff hdrawn hletters htensor' haxis').1 hfits

end Carries

end Formula

variable {S : Type → Type} [Storage S] {σ κ ε α : Type} {route : Nat → Nat → Char}

/-- The extents of generated inputs are the values of the letters. -/
theorem lookup_of_inputs {binding : Binding} {formula : Formula} {inputs : List (Tensor S α)}
    (h : List.Forall₂
      (fun tensorFormula tensor =>
        tensor.WellFormed ∧ tensorFormula.shape binding = .ok tensor.shape)
      formula.tensors inputs)
    {input axis extent : Nat} {c : Char}
    (hdimension : formula.dimensionAt? input axis = some (.letter c))
    (hextent : extentAt? (inputs.map (·.shape)) input axis = some extent) :
    binding c = some (extent : Int) := by
  obtain ⟨tensorFormula, htensorFormula, haxis⟩ := Option.bind_eq_some_iff.1 hdimension
  obtain ⟨shape, hshape, hextent⟩ := Option.bind_eq_some_iff.1 hextent
  obtain ⟨tensor, hpair, rfl⟩ := pairAt_map_right.1 ⟨htensorFormula, hshape⟩
  obtain ⟨-, hvalues⟩ :=
    TensorFormula.shape_eq_ok.1 ((forall₂_iff_pairAt.1 h).2 input tensorFormula tensor hpair).2
  exact Formula.value_letter_eq_ok.1
    ((forall₂_iff_pairAt.1 hvalues).2 axis _ extent ⟨haxis, hextent⟩)

/-- A function that returns as many tensors as the output side, of its ranks, and copies the extent
on each axis from an axis of its inputs with the letter that the route names. Nothing is said of
inputs that do not have the shapes of the input side. -/
def Pattern.Copies (pattern : Pattern) (route : Nat → Nat → Char) (f : Callable κ ε S α) : Prop :=
  ∀ state inputs binding,
    List.Forall₂
        (fun formula tensor => tensor.WellFormed ∧ formula.shape binding = .ok tensor.shape)
        pattern.inputs.tensors inputs →
      ∃ outputs, (f state inputs).1 = .ok outputs ∧
        List.Forall₂ (fun formula tensor => tensor.rank = formula.rank) pattern.outputs.tensors
          outputs.values ∧
        ∀ output axis extent,
          extentAt? (outputs.values.map (·.shape)) output axis = some extent →
            ∃ input inputAxis,
              pattern.inputs.dimensionAt? input inputAxis = some (.letter (route output axis)) ∧
                extentAt? (inputs.map (·.shape)) input inputAxis = some extent

/-- The report of a single trial that fails at the first place where the route names another
letter. -/
def Report.FailsAtFirstMisrouted (route : Nat → Nat → Char) (formula : Formula)
    (report : Report σ κ ε S α) : Prop :=
  ∃ call output axis c, ∃ (expected : Int) (actual : Nat),
    report.calls = [call] ∧ formula.FirstMisrouted route output axis c ∧
      call.assignment.lookup c = some expected ∧
      call.assignment.lookup (route output axis) = some (actual : Int) ∧ expected ≠ actual ∧
      report.outcome = .error (.rejected (.shapeMismatch output axis c.toString expected actual))

variable [Element α]

namespace Setup

/-- Every trial that is reached draws values and generates its inputs. -/
def AlwaysPrepares (setup : Setup σ κ ε S α) (depth : Nat) (session : Session σ κ) : Prop :=
  ∀ n < depth, setup.Reached session n →
    ∃ assignment inputs, setup.Prepares (setup.before n session) assignment inputs

theorem AlwaysPrepares.first {setup : Setup σ κ ε S α} {depth : Nat} {session : Session σ κ}
    (h : setup.AlwaysPrepares depth session) (hdepth : 1 ≤ depth) :
    ∃ assignment inputs, setup.Prepares session assignment inputs :=
  h 0 hdepth (setup.reached_zero session)

/-- A check without constraints of a pattern with bare letters on the output side that all occur on
the input side, and of a function that copies extents along a route. -/
structure CopiesAlong (setup : Setup σ κ ε S α) (route : Nat → Nat → Char) : Prop where
  unconstrained : setup.constraints = ∅
  bare : setup.pattern.outputs.Bare
  letters : ∀ c ∈ setup.pattern.outputs.letters, c ∈ setup.pattern.inputs.letters
  copies : setup.pattern.Copies route setup.f

variable {setup : Setup σ κ ε S α} {session : Session σ κ}

theorem Calls.drawn {call : Call ε S α} (hcalls : setup.Calls session call) :
    Assignment.Drawn setup.pattern.inputs setup.constraints setup.config.bound call.assignment := by
  obtain ⟨random, room, hdraw, -⟩ := hcalls.prepared
  exact Assignment.drawn_of_draw hdraw

theorem exists_call (h : ∃ assignment inputs, setup.Prepares session assignment inputs) :
    ∃ call, (setup.run session).calls = [call] ∧ setup.Calls session call := by
  rcases setup.run_cases session with hcall | ⟨hnone, -⟩
  · exact hcall
  · obtain ⟨assignment, inputs, hprepares⟩ := h
    exact absurd hprepares (hnone assignment inputs)

theorem Calls.outcome_of_ok {call : Call ε S α} (hcalls : setup.Calls session call)
    {outputs : Outputs (Tensor S α)} (hresult : call.result = .ok outputs) :
    (setup.run session).outcome =
      (setup.pattern.outputs.checkOutputs setup.config.strict call.assignment
        (outputs.values.map (·.shape))).mapError .rejected := by
  rw [hcalls.judged, hresult]
  rfl

namespace CopiesAlong

variable (h : setup.CopiesAlong route)
include h

theorem carries {call : Call ε S α} (hcalls : setup.Calls session call) :
    ∃ outputs, call.result = .ok outputs ∧
      setup.pattern.outputs.Carries route call.assignment (outputs.values.map (·.shape)) := by
  obtain ⟨outputs, hresult, hranks, hextents⟩ := h.copies session.callable _ _ hcalls.shapes
  rw [hcalls.applied] at hresult
  refine ⟨outputs, hresult, ?_, fun output axis extent hextent => ?_⟩
  · rwa [List.forall₂_map_right_iff]
  · obtain ⟨input, inputAxis, hletter, hcopied⟩ := hextents output axis extent hextent
    exact lookup_of_inputs hcalls.shapes hletter hcopied

theorem run_passes_iff (hprepares : ∃ assignment inputs, setup.Prepares session assignment inputs) :
    (setup.run session).outcome = .ok () ↔ setup.pattern.outputs.Routed route := by
  obtain ⟨call, -, hcalls⟩ := exists_call hprepares
  obtain ⟨outputs, hresult, hcarries⟩ := h.carries hcalls
  rw [hcalls.outcome_of_ok hresult, mapError_eq_ok]
  exact hcarries.checkOutputs_eq_ok (h.unconstrained ▸ hcalls.drawn) h.bare h.letters

theorem run_fails (hprepares : ∃ assignment inputs, setup.Prepares session assignment inputs)
    (hroute : ¬setup.pattern.outputs.Routed route) :
    (setup.run session).FailsAtFirstMisrouted route setup.pattern.outputs := by
  obtain ⟨call, hcall, hcalls⟩ := exists_call hprepares
  obtain ⟨outputs, hresult, hcarries⟩ := h.carries hcalls
  obtain ⟨output, axis, c, expected, actual, hfirst, hexpected, hactual, hne, hcheck⟩ :=
    hcarries.checkOutputs_eq_error setup.config.strict (h.unconstrained ▸ hcalls.drawn) h.bare
      h.letters hroute
  refine ⟨call, output, axis, c, expected, actual, hcall, hfirst, hexpected, hactual, hne, ?_⟩
  rw [hcalls.outcome_of_ok hresult, hcheck]
  rfl

variable {depth : Nat}

theorem check_fails (hdepth : 1 ≤ depth)
    (hfirst : ∃ assignment inputs, setup.Prepares session assignment inputs)
    (hroute : ¬setup.pattern.outputs.Routed route) :
    setup.check depth session = setup.run session ∧
      (setup.check depth session).FailsAtFirstMisrouted route setup.pattern.outputs := by
  have hfails : ¬setup.Passes session 0 := fun hpass => hroute ((h.run_passes_iff hfirst).1 hpass)
  rw [check_of_fails hdepth hfails]
  exact ⟨rfl, h.run_fails hfirst hroute⟩

variable (hprepares : setup.AlwaysPrepares depth session)
include hprepares

theorem reached_iff (hdepth : 1 ≤ depth) :
    setup.Reached session depth ↔ setup.pattern.outputs.Routed route := by
  constructor
  · intro hreached
    exact (h.run_passes_iff (hprepares.first hdepth)).1 (hreached 0 hdepth)
  · intro hroute
    rcases reached_or_first_failure setup session depth with hall | ⟨n, hn, hreached, hfails⟩
    · exact hall
    · exact absurd ((h.run_passes_iff (hprepares n hn hreached)).2 hroute) hfails

end CopiesAlong

end Setup

end ShapeAssert
