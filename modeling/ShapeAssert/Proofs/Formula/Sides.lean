import ShapeAssert.Proofs.Formula.Language

/-! Sides of a pattern without a formula. That something stands on a side is judged by its characters,
but the empty places between commas are left out when its formulas are read. So a side of nothing but
commas is accepted and asks for no tensor at all, and no other side is like it. -/

namespace ShapeAssert

/-- Commas with nothing between them. -/
theorem intercalate_replicate_nil (count : Nat) :
    [','].intercalate (List.replicate (count + 1) []) = List.replicate count ',' := by
  induction count with
  | zero => rfl
  | succ count ih =>
      rw [List.replicate_succ, List.intercalate_cons_of_ne_nil (by simp), ih, List.replicate_succ]
      rfl

/-- The texts that list no formula are those of commas only. -/
theorem TensorFormula.listedIn_nil_iff {text : List Char} :
    ListedIn [] text ↔ ∃ count, text = List.replicate count ',' := by
  constructor
  · rintro ⟨segments, rfl, hwritten⟩
    have hempty : ∀ segment ∈ segments, segment = [] := by
      simpa using List.forall₂_nil_left_iff.1 hwritten
    have hsegments := List.eq_replicate_of_mem hempty
    cases hlength : segments.length with
    | zero => exact ⟨0, by rw [List.length_eq_zero_iff.1 hlength]; rfl⟩
    | succ count => exact ⟨count, by rw [hsegments, hlength, intercalate_replicate_nil]⟩
  · rintro ⟨count, rfl⟩
    refine ⟨List.replicate (count + 1) [], (intercalate_replicate_nil count).symm, ?_⟩
    rw [List.filter_replicate_of_neg (by simp)]
    exact .nil

theorem Formula.WrittenAs.size_eq_zero_iff {formula : Formula} {text : List Char}
    (h : formula.WrittenAs text) : formula.size = 0 ↔ ∃ count, text = List.replicate count ',' := by
  rw [← TensorFormula.listedIn_nil_iff, Formula.size, List.length_eq_zero_iff]
  constructor
  · intro hnone
    exact hnone ▸ h.2
  · intro hlisted
    have hread : ofCompact text = .ok ⟨String.ofList text, []⟩ := ofCompact_eq_ok_iff.2 ⟨rfl, hlisted⟩
    rw [ofCompact_eq_ok_iff.2 h] at hread
    exact congrArg Formula.tensors (Except.ok.inj hread)

namespace Pattern

/-- A side that something stands on and that has no formula is a row of commas. -/
theorem exists_commas {formula : Formula} {text : List Char} (h : formula.WrittenAs text)
    (hne : text ≠ []) (hsize : formula.size = 0) :
    ∃ count, text = List.replicate (count + 1) ',' := by
  obtain ⟨count, rfl⟩ := h.size_eq_zero_iff.1 hsize
  cases count with
  | zero => exact absurd rfl hne
  | succ count => exact ⟨count, rfl⟩

theorem exists_writtenAs_commas (count : Nat) :
    ∃ formula : Formula, formula.WrittenAs (List.replicate (count + 1) ',') ∧ formula.size = 0 :=
  ⟨⟨String.ofList (List.replicate (count + 1) ','), []⟩,
    ⟨rfl, TensorFormula.listedIn_nil_iff.2 ⟨count + 1, rfl⟩⟩, rfl⟩

/-- A pattern is accepted with no formula for its inputs exactly if, white space apart, there are
only commas before the arrow and formulas may be read after it; and likewise for its outputs. On every
other accepted pattern both sides have a formula. -/
theorem parse_accepts_sides_of_commas (text : String) :
    ((∃ pattern, parse text = .ok pattern ∧ pattern.inputs.size = 0) ↔
      ∃ (count : Nat) (outputs : List Char) (formula : Formula), outputs ≠ [] ∧
        Text.compact text.toList = List.replicate (count + 1) ',' ++ arrow.toList ++ outputs ∧
        formula.WrittenAs outputs) ∧
    ((∃ pattern, parse text = .ok pattern ∧ pattern.outputs.size = 0) ↔
      ∃ (count : Nat) (inputs : List Char) (formula : Formula), inputs ≠ [] ∧
        Text.compact text.toList = inputs ++ arrow.toList ++ List.replicate (count + 1) ',' ∧
        formula.WrittenAs inputs) := by
  simp only [parse_eq_ok_iff]
  refine ⟨⟨?_, ?_⟩, ⟨?_, ?_⟩⟩
  · rintro ⟨pattern, ⟨-, inputs, outputs, hinputs, houtputs, htext, hleft, hright⟩, hsize⟩
    obtain ⟨count, rfl⟩ := exists_commas hleft hinputs hsize
    exact ⟨count, outputs, pattern.outputs, houtputs, htext, hright⟩
  · rintro ⟨count, outputs, formula, houtputs, htext, hright⟩
    obtain ⟨empty, hleft, hsize⟩ := exists_writtenAs_commas count
    exact ⟨⟨_, empty, formula⟩, ⟨rfl, _, outputs, by simp, houtputs, htext, hleft, hright⟩, hsize⟩
  · rintro ⟨pattern, ⟨-, inputs, outputs, hinputs, houtputs, htext, hleft, hright⟩, hsize⟩
    obtain ⟨count, rfl⟩ := exists_commas hright houtputs hsize
    exact ⟨count, inputs, pattern.inputs, hinputs, htext, hleft⟩
  · rintro ⟨count, inputs, formula, hinputs, htext, hleft⟩
    obtain ⟨empty, hright, hsize⟩ := exists_writtenAs_commas count
    exact ⟨⟨_, formula, empty⟩, ⟨rfl, inputs, _, hinputs, by simp, htext, hleft, hright⟩, hsize⟩

/-- A comma on each side is accepted as a pattern with neither inputs nor outputs. -/
theorem parse_single_commas :
    let pattern : Pattern := ⟨",->,", ⟨",", []⟩, ⟨",", []⟩⟩
    parse ", -> ," = .ok pattern ∧ pattern.inputs.size = 0 ∧ pattern.outputs.size = 0 := by
  intro pattern
  exact ⟨by rfl, by rfl, by rfl⟩

end Pattern

end ShapeAssert
