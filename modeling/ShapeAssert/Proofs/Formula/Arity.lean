import ShapeAssert.Formula.Pattern
import ShapeAssert.Proofs.Expr.Arity
import ShapeAssert.Proofs.Formula.Grammar

/-! Formulas that were read hold only trees that were read, so every call in them has the right number
of arguments. -/

namespace ShapeAssert

def Dimension.WellCalled : Dimension → Prop
  | letter _ => True
  | group _ e => e.WellCalled

def TensorFormula.WellCalled (formula : TensorFormula) : Prop :=
  ∀ dimension ∈ formula.dimensions, dimension.WellCalled

def Formula.WellCalled (formula : Formula) : Prop :=
  ∀ tensor ∈ formula.tensors, tensor.WellCalled

def Pattern.WellCalled (pattern : Pattern) : Prop :=
  pattern.inputs.WellCalled ∧ pattern.outputs.WellCalled

theorem Dimension.Spell.wellCalled {dimensions : List Dimension} {text : List Char}
    (h : Spell dimensions text) : ∀ dimension ∈ dimensions, dimension.WellCalled := by
  intro dimension hdimension
  cases dimension with
  | letter _ => trivial
  | group source e => exact Expr.wellCalled_of_parse (h.parse_of_group hdimension)

theorem TensorFormula.wellCalled_of_parse {source : String} {formula : TensorFormula}
    (h : parse source = .ok formula) : formula.WellCalled :=
  (parse_eq_ok_iff.1 h).2.wellCalled

theorem Formula.wellCalled_of_ofCompact {text : List Char} {formula : Formula}
    (h : ofCompact text = .ok formula) : formula.WellCalled := by
  obtain ⟨tensors, htensors, hformula⟩ := bind_eq_ok.1 h
  obtain rfl := Except.ok.inj hformula
  intro tensor htensor
  obtain ⟨segment, -, hsegment⟩ := exists_of_mem_mapM htensors htensor
  exact TensorFormula.wellCalled_of_parse hsegment

theorem Pattern.wellCalled_of_parse {text : String} {pattern : Pattern}
    (h : parse text = .ok pattern) : pattern.WellCalled := by
  obtain ⟨⟨left, right⟩, -, h⟩ := bind_eq_ok.1 h
  obtain ⟨inputs, hinputs, h⟩ := bind_eq_ok.1 h
  obtain ⟨outputs, houtputs, h⟩ := bind_eq_ok.1 h
  obtain rfl := Except.ok.inj h
  exact ⟨Formula.wellCalled_of_ofCompact hinputs, Formula.wellCalled_of_ofCompact houtputs⟩

end ShapeAssert
