import ShapeAssert.Check.Outputs
import ShapeAssert.Proofs.Formula.Extents
import ShapeAssert.Tensor.Basic

/-! Outputs against the output side of a pattern. A formula is read in two ways: as the shape to
generate on the input side, and as what to compare extents with on the output side. Both readings
agree: in strict mode exactly the outputs pass whose shapes are those the formulas ask for, otherwise
bare letters without a value stand for any extent. The error of outputs that do not pass is that of
the first place where they do not fit. -/

namespace ShapeAssert

namespace Dimension

/-- A bare letter without a value. -/
def Unbound (assignment : Assignment) (dimension : Dimension) : Prop :=
  ∃ letter, dimension = .letter letter ∧ assignment.contains letter = false

/-- An extent that the dimension allows. Outside strict mode a bare letter without a value allows
every extent. -/
def Fits (strict : Bool) (assignment : Assignment) (dimension : Dimension) (extent : Nat) : Prop :=
  strict = false ∧ dimension.Unbound assignment ∨
    dimension.value assignment.lookup = .ok (extent : Int)

/-- What is wrong with an extent that the dimension does not allow. -/
inductive Offends (strict : Bool) (assignment : Assignment) (output axis : Nat) :
    Dimension → Nat → Error → Prop where
  | unbound {letter : Char} {extent : Nat} :
      strict = true → assignment.contains letter = false →
        Offends strict assignment output axis (.letter letter) extent
          (.unboundOutputVariable output axis letter)
  | noValue {dimension : Dimension} {extent : Nat} {e : Error} :
      ¬dimension.Unbound assignment → dimension.value assignment.lookup = .error e →
        Offends strict assignment output axis dimension extent e
  | otherValue {dimension : Dimension} {extent : Nat} {value : Int} :
      dimension.value assignment.lookup = .ok value → value ≠ extent →
        Offends strict assignment output axis dimension extent
          (.shapeMismatch output axis dimension.text value extent)

end Dimension

namespace TensorFormula

/-- A shape with as many axes as the formula and an extent on each that its dimension allows. -/
def Fits (strict : Bool) (assignment : Assignment) (formula : TensorFormula) (shape : Shape) :
    Prop :=
  shape.length = formula.rank ∧
    ∀ axis dimension extent, PairAt formula.dimensions shape axis dimension extent →
      dimension.Fits strict assignment extent

/-- What is wrong first with a shape that does not fit: its rank, then its axes in order. -/
inductive Offends (strict : Bool) (assignment : Assignment) (output : Nat)
    (formula : TensorFormula) (shape : Shape) : Error → Prop where
  | rank : shape.length ≠ formula.rank →
      Offends strict assignment output formula shape
        (.rankMismatch output formula.source formula.rank shape.length)
  | axis {axis : Nat} {dimension : Dimension} {extent : Nat} {e : Error} :
      shape.length = formula.rank →
      (∀ earlier < axis, ∀ dimension extent,
        PairAt formula.dimensions shape earlier dimension extent →
          dimension.Fits strict assignment extent) →
      PairAt formula.dimensions shape axis dimension extent →
      dimension.Offends strict assignment output axis extent e →
        Offends strict assignment output formula shape e

end TensorFormula

namespace Formula

/-- What is wrong first with the shapes of outputs: their number, then each of them in order. -/
inductive Offends (strict : Bool) (assignment : Assignment) (formula : Formula)
    (shapes : List Shape) : Error → Prop where
  | count : shapes.length ≠ formula.size →
      Offends strict assignment formula shapes (.outputArity formula.size shapes.length)
  | output {output : Nat} {tensor : TensorFormula} {shape : Shape} {e : Error} :
      shapes.length = formula.size →
      (∀ earlier < output, ∀ tensor shape, PairAt formula.tensors shapes earlier tensor shape →
        tensor.Fits strict assignment shape) →
      PairAt formula.tensors shapes output tensor shape →
      tensor.Offends strict assignment output shape e →
        Offends strict assignment formula shapes e

/-! ### One axis, one output, all outputs -/

variable {strict : Bool} {assignment : Assignment} {output axis : Nat}

theorem value_letter_of_not_contains {letter : Char} (h : assignment.contains letter = false) :
    (Dimension.letter letter).value assignment.lookup =
      .error (.undefinedVariable letter.toString letter.toString) := by
  rw [LetterMap.contains_eq_isSome_lookup, Option.isSome_eq_false_iff, Option.isNone_iff_eq_none] at h
  simp [Dimension.value, h]

theorem checkExtent_unbound {letter : Char} {extent : Nat}
    (h : assignment.contains letter = false) :
    checkExtent strict assignment output axis (.letter letter) extent =
      if strict then .error (.unboundOutputVariable output axis letter) else .ok () := by
  simp [checkExtent, Dimension.letter?, Option.filter, h]

theorem checkExtent_of_not_unbound {dimension : Dimension} {extent : Nat}
    (h : ¬dimension.Unbound assignment) :
    checkExtent strict assignment output axis dimension extent =
      (do
        let expected ← dimension.value assignment.lookup
        if expected = extent then .ok ()
        else .error (.shapeMismatch output axis dimension.text expected extent)) := by
  cases dimension with
  | letter c =>
      have hc : assignment.contains c = true := by simpa [Dimension.Unbound] using h
      simp [checkExtent, Dimension.letter?, Option.filter, hc]
  | group source e => rfl

theorem checkExtent_eq_ok {dimension : Dimension} {extent : Nat} :
    checkExtent strict assignment output axis dimension extent = .ok () ↔
      dimension.Fits strict assignment extent := by
  by_cases h : dimension.Unbound assignment
  · obtain ⟨letter, rfl, hletter⟩ := h
    rw [checkExtent_unbound hletter, Dimension.Fits, value_letter_of_not_contains hletter]
    cases strict <;> simp [Dimension.Unbound, hletter]
  · rw [checkExtent_of_not_unbound h, bind_eq_ok, Dimension.Fits]
    constructor
    · rintro ⟨expected, hexpected, hcompare⟩
      split at hcompare
      · next heq => exact .inr (heq ▸ hexpected)
      · cases hcompare
    · rintro (⟨-, hunbound⟩ | hvalue)
      · exact absurd hunbound h
      · exact ⟨extent, hvalue, if_pos rfl⟩

theorem checkExtent_eq_error {dimension : Dimension} {extent : Nat} {e : Error} :
    checkExtent strict assignment output axis dimension extent = .error e ↔
      dimension.Offends strict assignment output axis extent e := by
  by_cases h : dimension.Unbound assignment
  · obtain ⟨letter, rfl, hletter⟩ := h
    rw [checkExtent_unbound hletter]
    constructor
    · intro herror
      split at herror
      · next hstrict =>
        obtain rfl := Except.error.inj herror
        exact .unbound hstrict hletter
      · cases herror
    · rintro (⟨hstrict, -⟩ | ⟨hbound, -⟩ | ⟨hvalue, -⟩)
      · exact if_pos hstrict
      · exact absurd ⟨letter, rfl, hletter⟩ hbound
      · rw [value_letter_of_not_contains hletter] at hvalue
        cases hvalue
  · rw [checkExtent_of_not_unbound h, bind_eq_error]
    constructor
    · rintro (hvalue | ⟨value, hvalue, hcompare⟩)
      · exact .noValue h hvalue
      · split at hcompare
        · cases hcompare
        · next hne =>
          obtain rfl := Except.error.inj hcompare
          exact .otherValue hvalue hne
    · rintro (⟨-, hletter⟩ | ⟨-, hvalue⟩ | ⟨hvalue, hne⟩)
      · exact absurd ⟨_, rfl, hletter⟩ h
      · exact .inl hvalue
      · exact .inr ⟨_, hvalue, if_neg hne⟩

theorem checkAxes_eq_checkPairs (dimensions : List Dimension) (shape : Shape) :
    checkAxes strict assignment output axis dimensions shape =
      checkPairs (checkExtent strict assignment output) axis dimensions shape := by
  fun_induction checkAxes strict assignment output axis dimensions shape with
  | case1 axis dimension dimensions extent shape ih => simp only [checkPairs, ih]
  | case2 axis dimensions shape hend => rw [checkPairs]; exact hend

theorem checkOutput_eq_ok {formula : TensorFormula} {shape : Shape} :
    checkOutput strict assignment output formula shape = .ok () ↔
      formula.Fits strict assignment shape := by
  rw [checkOutput, TensorFormula.Fits]
  split
  · next hrank => simp [hrank, checkAxes_eq_checkPairs, checkPairs_eq_ok, checkExtent_eq_ok]
  · next hrank => simp [hrank]

theorem checkOutput_eq_error {formula : TensorFormula} {shape : Shape} {e : Error} :
    checkOutput strict assignment output formula shape = .error e ↔
      formula.Offends strict assignment output shape e := by
  rw [checkOutput]
  split
  · next hrank =>
    simp only [checkAxes_eq_checkPairs, checkPairs_eq_error, checkExtent_eq_ok,
      checkExtent_eq_error, Nat.zero_add]
    constructor
    · rintro ⟨axis, dimension, extent, hpair, hoffends, hfits⟩
      exact .axis hrank hfits hpair hoffends
    · rintro (hne | ⟨-, hfits, hpair, hoffends⟩)
      · exact absurd hrank hne
      · exact ⟨_, _, _, hpair, hoffends, hfits⟩
  · next hrank =>
    constructor
    · intro herror
      obtain rfl := Except.error.inj herror
      exact .rank hrank
    · rintro (- | ⟨heq, -⟩)
      · rfl
      · exact absurd heq hrank

theorem checkEach_eq_checkPairs (formulas : List TensorFormula) (shapes : List Shape) :
    checkEach strict assignment output formulas shapes =
      checkPairs (checkOutput strict assignment) output formulas shapes := by
  fun_induction checkEach strict assignment output formulas shapes with
  | case1 output formula formulas shape shapes ih => simp only [checkPairs, ih]
  | case2 output formulas shapes hend => rw [checkPairs]; exact hend

theorem checkOutputs_eq_ok {formula : Formula} {shapes : List Shape} :
    formula.checkOutputs strict assignment shapes = .ok () ↔
      shapes.length = formula.size ∧ ∀ output tensor shape,
        PairAt formula.tensors shapes output tensor shape → tensor.Fits strict assignment shape := by
  rw [checkOutputs]
  split
  · next hcount => simp [hcount, checkEach_eq_checkPairs, checkPairs_eq_ok, checkOutput_eq_ok]
  · next hcount => simp [hcount]

theorem checkOutputs_eq_error {formula : Formula} {shapes : List Shape} {e : Error} :
    formula.checkOutputs strict assignment shapes = .error e ↔
      formula.Offends strict assignment shapes e := by
  rw [checkOutputs]
  split
  · next hcount =>
    simp only [checkEach_eq_checkPairs, checkPairs_eq_error, checkOutput_eq_ok,
      checkOutput_eq_error, Nat.zero_add]
    constructor
    · rintro ⟨output, tensor, shape, hpair, hoffends, hfits⟩
      exact .output hcount hfits hpair hoffends
    · rintro (hne | ⟨-, hfits, hpair, hoffends⟩)
      · exact absurd hcount hne
      · exact ⟨_, _, _, hpair, hoffends, hfits⟩
  · next hcount =>
    constructor
    · intro herror
      obtain rfl := Except.error.inj herror
      exact .count hcount
    · rintro (- | ⟨heq, -⟩)
      · rfl
      · exact absurd heq hcount

/-! ### Agreement with the shapes of formulas -/

/-- In strict mode an addressable shape fits a formula exactly if the formula asks for it. -/
theorem fits_strict_iff {formula : TensorFormula} {shape : Shape} (hshape : shape.Addressable) :
    formula.Fits true assignment shape ↔ formula.shape assignment.lookup = .ok shape := by
  rw [TensorFormula.shape_eq_ok, forall₂_iff_pairAt, TensorFormula.Fits, TensorFormula.rank,
    eq_comm (a := formula.dimensions.length)]
  simp [hshape, Dimension.Fits]

/-- The output check agrees with the shapes that formulas ask for. Strictly, outputs pass exactly if
there is one for each formula and it has the shape of the formula. Otherwise they pass exactly if
their number and ranks are right and every extent is the value of its dimension or stands at a bare
letter without a value. Outputs that do not pass have the error of their first offence. -/
theorem checkOutputs_agrees_with_shape {S : Type → Type} [Storage S] {α : Type}
    (assignment : Assignment) (formula : Formula) (outputs : List (Tensor S α))
    (hwell : ∀ tensor ∈ outputs, tensor.WellFormed) :
    (formula.checkOutputs true assignment (outputs.map (·.shape)) = .ok () ↔
      outputs.length = formula.size ∧
        ∀ output tensorFormula tensor, PairAt formula.tensors outputs output tensorFormula tensor →
          tensorFormula.shape assignment.lookup = .ok tensor.shape) ∧
    (formula.checkOutputs false assignment (outputs.map (·.shape)) = .ok () ↔
      outputs.length = formula.size ∧
        ∀ output tensorFormula tensor, PairAt formula.tensors outputs output tensorFormula tensor →
          tensor.rank = tensorFormula.rank ∧
            ∀ axis dimension extent,
              PairAt tensorFormula.dimensions tensor.shape axis dimension extent →
                dimension.Unbound assignment ∨
                  dimension.value assignment.lookup = .ok (extent : Int)) ∧
    ∀ strict e,
      formula.checkOutputs strict assignment (outputs.map (·.shape)) = .error e ↔
        formula.Offends strict assignment (outputs.map (·.shape)) e := by
  have hpass (strict : Bool) :
      formula.checkOutputs strict assignment (outputs.map (·.shape)) = .ok () ↔
        outputs.length = formula.size ∧
          ∀ output tensorFormula tensor,
            PairAt formula.tensors outputs output tensorFormula tensor →
              tensorFormula.Fits strict assignment tensor.shape := by
    rw [checkOutputs_eq_ok, List.length_map]
    refine and_congr_right fun _ => ⟨fun h output _ tensor hpair => ?_,
      fun h output _ shape hpair => ?_⟩
    · exact h output _ _ (pairAt_map_right.2 ⟨tensor, hpair, rfl⟩)
    · obtain ⟨tensor, htensor, rfl⟩ := pairAt_map_right.1 hpair
      exact h output _ tensor htensor
  refine ⟨?_, ?_, fun strict e => checkOutputs_eq_error⟩
  · rw [hpass]
    refine and_congr_right fun _ => forall₄_congr fun output tensorFormula tensor hpair => ?_
    have haddressable : tensor.shape.Addressable := by
      rw [Shape.Addressable, hwell tensor hpair.mem_right]
      rfl
    exact fits_strict_iff haddressable
  · rw [hpass]
    simp [TensorFormula.Fits, Dimension.Fits, Tensor.rank]

/-- An empty axis fits, and a letter without a value is the first offence in strict mode. -/
theorem checkOutputs_agrees_at_unbound_letter :
    let formula : Formula := ⟨"a(a-5),n",
      [⟨.ofList [.letter 'a', .group "(a-5)" (.binary .sub (.var "a") (.int 5))], "a(a-5)"⟩,
        ⟨.ofList [.letter 'n'], "n"⟩]⟩
    let assignment : Assignment := LetterMap.ofList [('a', 5)]
    let outputs : List (Tensor HeapStorage Nat) :=
      [{ storage := ⟨#[]⟩, shape := [5, 0] }, { storage := ⟨#[1, 2]⟩, shape := [2] }]
    (∀ tensor ∈ outputs, tensor.WellFormed) ∧
      formula.checkOutputs false assignment (outputs.map (·.shape)) = .ok () ∧
      formula.Offends true assignment (outputs.map (·.shape)) (.unboundOutputVariable 1 0 'n') := by
  intro formula assignment outputs
  have hwell : ∀ tensor ∈ outputs, tensor.WellFormed := by decide
  exact ⟨hwell, by rfl,
    ((checkOutputs_agrees_with_shape assignment formula outputs hwell).2.2 true _).1 (by rfl)⟩

end Formula

end ShapeAssert
