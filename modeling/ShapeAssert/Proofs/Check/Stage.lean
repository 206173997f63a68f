import ShapeAssert.Check.Trial
import ShapeAssert.Proofs.Check.Outputs
import ShapeAssert.Proofs.Formula.Arity

/-! How far a check has come when an error arises. Reading a pattern or constraints, drawing values
and all that follows the draw have errors of different kinds, except that a call with a wrong number
of arguments would be an error of reading even when it is only found by evaluating it. -/

namespace ShapeAssert

/-- The parts of a check, in order. -/
inductive Stage where
  | reading
  | drawing
  | running
  deriving DecidableEq

/-- The part of a check in which a kind of error arises. -/
def Error.stage : Error → Stage
  | patternArity .. | emptyParenthesis .. | unclosedParenthesis .. | invalidCharacter ..
  | invalidExpression .. | constraintKey .. | constraintType .. => .reading
  | insufficientPrimes .. => .drawing
  | undefinedVariable .. | arithmeticOverflow .. | negativeDimension .. | shapeTooLarge ..
  | outputArity .. | rankMismatch .. | shapeMismatch .. | unboundOutputVariable ..
  | unknownFill .. | unrepresentableFill .. | invalidAxis .. | incompatibleShapes ..
  | invalidSlice .. | shapeSize .. | storage .. => .running

/-! ### Reading -/

theorem Expr.stage_of_parse {source : String} {e : Error} (h : parse source = .error e) :
    e.stage = .reading := by
  obtain ⟨fault, rfl⟩ := parse_eq_error h
  rfl

theorem TensorFormula.stage_of_parse {source : String} {e : Error}
    (h : parse source = .error e) : e.stage = .reading := by
  obtain ⟨fault, hscan, rfl⟩ := parse_eq_error h
  cases fault with
  | emptyParenthesis => rfl
  | unclosedParenthesis => rfl
  | invalidCharacter character => rfl
  | group e =>
      obtain ⟨text, htext⟩ := scan_eq_error_group hscan
      exact Expr.stage_of_parse htext

theorem Formula.stage_of_ofCompact {text : List Char} {e : Error} (h : ofCompact text = .error e) :
    e.stage = .reading := by
  rcases bind_eq_error.1 h with h | ⟨tensors, -, h⟩
  · obtain ⟨segment, -, hsegment⟩ := mapM_eq_error h
    exact TensorFormula.stage_of_parse hsegment
  · cases h

theorem Pattern.stage_of_parse {text : String} {e : Error} (h : parse text = .error e) :
    e.stage = .reading := by
  rcases bind_eq_error.1 h with h | ⟨⟨left, right⟩, -, h⟩
  · obtain ⟨found, -, rfl⟩ := mapError_eq_error.1 h
    rfl
  rcases bind_eq_error.1 h with h | ⟨inputs, -, h⟩
  · exact Formula.stage_of_ofCompact h
  rcases bind_eq_error.1 h with h | ⟨outputs, -, h⟩
  · exact Formula.stage_of_ofCompact h
  · cases h

namespace Error

/-- The error is not one of drawing, and under the condition not one of reading either. -/
def Late (condition : Prop) (e : Error) : Prop :=
  e.stage ≠ .drawing ∧ (condition → e.stage = .running)

theorem late_of_running {condition : Prop} {e : Error} (h : e.stage = .running) :
    e.Late condition := by
  refine ⟨?_, fun _ => h⟩
  rw [h]
  decide

theorem Late.mono {condition stronger : Prop} {e : Error} (h : e.Late condition)
    (himp : stronger → condition) : e.Late stronger :=
  ⟨h.1, fun hstronger => h.2 (himp hstronger)⟩

end Error

theorem Dimension.late_of_value {binding : Binding} {dimension : Dimension} {e : Error}
    (h : dimension.value binding = .error e) : e.Late dimension.WellCalled := by
  cases dimension with
  | letter c =>
      cases hc : binding c with
      | none =>
          rw [Dimension.value, hc] at h
          obtain rfl := Except.error.inj h
          exact Error.late_of_running rfl
      | some value =>
          rw [Dimension.value, hc] at h
          cases h
  | group source tree =>
      obtain ⟨fault, hfault, rfl⟩ := mapError_eq_error.1 h
      cases fault with
      | undefined name => exact Error.late_of_running rfl
      | overflow => exact Error.late_of_running rfl
      | miscalled f count =>
          refine ⟨Stage.noConfusion, fun hwell => ?_⟩
          obtain ⟨name, hname⟩ | hoverflow := Expr.WellCalled.eval_error hwell hfault
          · cases hname
          · cases hoverflow

theorem Formula.Offends.late {strict : Bool} {assignment : Assignment} {formula : Formula}
    {shapes : List Shape} {e : Error} (h : formula.Offends strict assignment shapes e) :
    e.Late formula.WellCalled := by
  obtain - | ⟨-, -, hpair, - | ⟨-, -, haxis, - | ⟨-, hvalue⟩ | -⟩⟩ := h
  case noValue =>
    have htensor := List.mem_of_getElem? hpair.1
    have hdimension := List.mem_of_getElem? haxis.1
    exact (Dimension.late_of_value hvalue).mono fun hwell => hwell _ htensor _ hdimension
  all_goals exact Error.late_of_running rfl

variable {S : Type → Type} {σ ε α : Type}

variable [Storage S]

/-- What can be wrong with generating a tensor. -/
inductive Error.OfGenerating : Error → Prop where
  | tooLarge (shape : Shape) : OfGenerating (.shapeTooLarge shape)
  | fill (value : Float) : OfGenerating (.unrepresentableFill value)
  | size (shape : Shape) (expected actual : Nat) : OfGenerating (.shapeSize shape expected actual)
  | storage (fault : StorageFault) : OfGenerating (.storage fault)

theorem Error.OfGenerating.stage {e : Error} (h : e.OfGenerating) : e.stage = .running := by
  cases h <;> rfl

theorem Shape.ofGenerating_of_checkHeld {shape : Shape} {held : Nat} {e : Error}
    (h : shape.checkHeld held = .error e) : e.OfGenerating := by
  rcases bind_eq_error.1 h with h | ⟨count, -, h⟩
  · obtain ⟨-, rfl⟩ := Shape.elementCount_eq_error.1 h
    exact .tooLarge shape
  · split at h
    · cases h
    · obtain rfl := Except.error.inj h
      exact .size _ _ _

theorem Tensor.ofGenerating_of_ofStorage {storage : S α} {shape : Shape} {e : Error}
    (h : ofStorage storage shape = .error e) : e.OfGenerating := by
  rcases bind_eq_error.1 h with h | ⟨-, -, h⟩
  · exact Shape.ofGenerating_of_checkHeld h
  · cases h

variable [Element α]

theorem Fill.ofGenerating_of_generate {fill : Fill} {source : RandomSource σ α} {count : Nat}
    {state : σ} {e : Error} (h : fill.generate source count state = .error e) : e.OfGenerating := by
  cases fill with
  | constant value =>
      have helement := map_eq_error.1 h
      rw [element] at helement
      split at helement
      · cases helement
      · obtain rfl := Except.error.inj helement
        exact .fill value
  | _ => cases h

theorem Backend.ofGenerating_of_build {backend : Backend S α} {source : RandomSource σ α}
    {shape : Shape} {fill : Fill} {room room' : Room σ} {e : Error}
    (h : backend.build source shape fill room = (.error e, room')) : e.OfGenerating := by
  rw [build_eq] at h
  split at h
  · next e' hcount =>
    simp only [Prod.mk.injEq, Except.error.injEq] at h
    obtain ⟨rfl, -⟩ := h
    obtain ⟨-, rfl⟩ := Shape.elementCount_eq_error.1 hcount
    exact .tooLarge shape
  split at h
  · next e' hfill =>
    simp only [Prod.mk.injEq, Except.error.injEq] at h
    obtain ⟨rfl, -⟩ := h
    exact Fill.ofGenerating_of_generate hfill
  split at h
  · next fault directory hstore =>
    simp only [Prod.mk.injEq, Except.error.injEq] at h
    obtain ⟨rfl, -⟩ := h
    exact .storage fault
  · next storage directory hstore =>
    split at h
    · next e' htensor =>
      simp only [Prod.mk.injEq, Except.error.injEq] at h
      obtain ⟨rfl, -⟩ := h
      exact Tensor.ofGenerating_of_ofStorage htensor
    · cases h

/-- Inputs fail to be generated because a formula has no shape or because its tensor cannot be
generated. -/
theorem buildInputs_eq_error {backend : Backend S α} {source : RandomSource σ α} {fill : Fill}
    {binding : Binding} {formulas : List TensorFormula} {room room' : Room σ} {e : Error}
    (h : buildInputs backend source fill binding formulas room = (.error e, room')) :
    (∃ formula ∈ formulas, formula.shape binding = .error e) ∨ e.OfGenerating := by
  induction formulas generalizing room room' with
  | nil => cases h
  | cons formula formulas ih =>
      rw [buildInputs] at h
      split at h
      · next e' hshape =>
        simp only [Prod.mk.injEq, Except.error.injEq] at h
        obtain ⟨rfl, -⟩ := h
        exact .inl ⟨formula, List.mem_cons_self, hshape⟩
      split at h
      · next e' room₁ hbuild =>
        simp only [Prod.mk.injEq, Except.error.injEq] at h
        obtain ⟨rfl, -⟩ := h
        exact .inr (Backend.ofGenerating_of_build hbuild)
      split at h
      · next e' room₂ hrest =>
        simp only [Prod.mk.injEq, Except.error.injEq] at h
        obtain ⟨rfl, -⟩ := h
        refine (ih hrest).imp_left ?_
        rintro ⟨formula', hformula', hshape⟩
        exact ⟨formula', List.mem_cons_of_mem formula hformula', hshape⟩
      · cases h

end ShapeAssert
