import ShapeAssert.Proofs.Formula.Language

/-! Texts and what is read from them. A formula of one tensor keeps its text whole, the pieces of a
side keep theirs, and white space is lost at the outer two levels only, so that what is printed is
read as the same value again. -/

namespace ShapeAssert

/-- Leaving pieces out leaves only characters out. -/
theorem intercalate_sublist {α : Type} {separator : List α} {pieces others : List (List α)}
    (h : pieces.Sublist others) :
    (separator.intercalate pieces).Sublist (separator.intercalate others) := by
  induction h with
  | slnil => exact List.Sublist.refl _
  | @cons pieces others piece h ih =>
      cases others with
      | nil =>
          rw [List.sublist_nil.1 h]
          exact List.nil_sublist _
      | cons other others =>
          rw [List.intercalate_cons_cons]
          exact ih.trans (List.sublist_append_right _ _)
  | @cons_cons pieces others piece h ih =>
      cases pieces with
      | nil =>
          rw [List.intercalate_singleton]
          cases others with
          | nil => rw [List.intercalate_singleton]
          | cons other others =>
              rw [List.intercalate_cons_cons, List.append_assoc]
              exact List.sublist_append_left _ _
      | cons next pieces =>
          have hne : others ≠ [] := by
            rintro rfl
            cases h
          rw [List.intercalate_cons_cons, List.intercalate_cons_of_ne_nil hne]
          exact ih.append_left _

/-! ### The formula of one tensor -/

theorem Dimension.WrittenAs.toList_text {dimension : Dimension} {word : List Char}
    (h : dimension.WrittenAs word) : dimension.text.toList = word := by
  cases h with
  | letter _ => exact String.toList_singleton _
  | group _ _ => exact String.toList_ofList

theorem Dimension.Spell.flatMap_text {dimensions : List Dimension} {text : List Char}
    (h : Spell dimensions text) : dimensions.flatMap (·.text.toList) = text := by
  induction h with
  | nil => rfl
  | cons hword _ ih => rw [List.flatMap_cons, hword.toList_text, ih]

namespace TensorFormula

variable {text : String} {tensor : TensorFormula}

/-- The texts of the dimensions, one after the other, are the text that was read. -/
theorem join_texts (h : parse text = .ok tensor) :
    String.join (tensor.dimensions.map Dimension.text) = text := by
  obtain ⟨-, hspell⟩ := parse_eq_ok_iff.1 h
  rw [← String.toList_inj, String.toList_join, List.flatMap_map, hspell.flatMap_text]

theorem parse_source (h : parse text = .ok tensor) : parse tensor.source = .ok tensor := by
  rwa [(parse_eq_ok_iff.1 h).1]

end TensorFormula

/-! ### The formulas of one side -/

namespace Formula

/-- The texts of the formulas with commas between them. -/
def joined (formula : Formula) : String :=
  ",".intercalate (formula.tensors.map (·.source))

variable {formula : Formula}

theorem toList_sources {tensors : List TensorFormula} {pieces : List (List Char)}
    (h : List.Forall₂ TensorFormula.WrittenAs tensors pieces) :
    (tensors.map (·.source)).map String.toList = pieces := by
  induction h with
  | nil => rfl
  | cons hpiece _ ih =>
      rw [List.map_cons, List.map_cons, ih, hpiece.1, String.toList_ofList]

/-- Commas between the formulas give the text without its empty pieces, and this text lists the same
formulas. -/
theorem WrittenAs.exists_joined {text : List Char} (h : formula.WrittenAs text) :
    ∃ pieces, CutAtCommas text pieces ∧
      formula.joined.toList = [','].intercalate (pieces.filter (!·.isEmpty)) ∧
      (⟨formula.joined, formula.tensors⟩ : Formula).WrittenAs formula.joined.toList := by
  obtain ⟨pieces, hcut, hwritten⟩ := exists_cut_of_listedIn h.2
  have hjoined : formula.joined.toList = [','].intercalate (pieces.filter (!·.isEmpty)) := by
    rw [Formula.joined, String.toList_intercalate, toList_sources hwritten]
    rfl
  have hfull : (pieces.filter (!·.isEmpty)).filter (!·.isEmpty) = pieces.filter (!·.isEmpty) := by
    simp only [List.filter_filter, Bool.and_self]
  refine ⟨pieces, hcut, hjoined, String.ofList_toList.symm, _, hjoined, ?_⟩
  rwa [hfull]

theorem WrittenAs.parse_source {text : List Char} (h : formula.WrittenAs text)
    (hcompact : Text.compact text = text) : Formula.parse formula.source = .ok formula := by
  rw [Formula.parse, h.1, String.toList_ofList, hcompact]
  exact ofCompact_eq_ok_iff.2 h

section

variable {text : String} (h : parse text = .ok formula)
include h

theorem exists_cut_of_parse : ∃ pieces, CutAtCommas (Text.compact text.toList) pieces := by
  obtain ⟨pieces, hcut, -⟩ := (ofCompact_eq_ok_iff.1 h).exists_joined
  exact ⟨pieces, hcut⟩

theorem toList_joined {pieces : List (List Char)}
    (hcut : CutAtCommas (Text.compact text.toList) pieces) :
    formula.joined.toList = [','].intercalate (pieces.filter (!·.isEmpty)) := by
  obtain ⟨pieces', hcut', hjoined, -⟩ := (ofCompact_eq_ok_iff.1 h).exists_joined
  rwa [hcut.unique hcut']

theorem parse_joined : parse formula.joined = .ok ⟨formula.joined, formula.tensors⟩ := by
  obtain ⟨pieces, hcut, hjoined, hwritten⟩ := (ofCompact_eq_ok_iff.1 h).exists_joined
  have hpart : formula.joined.toList.Sublist (Text.compact text.toList) := by
    rw [hjoined, hcut.2.1]
    exact intercalate_sublist List.filter_sublist
  rw [parse, Text.compact_of_sublist hpart]
  exact ofCompact_eq_ok_iff.2 hwritten

theorem parse_source : parse formula.source = .ok formula :=
  (ofCompact_eq_ok_iff.1 h).parse_source Text.compact_compact

end

end Formula

/-! ### Patterns -/

namespace Pattern

variable {text : String} {pattern : Pattern}

/-- The two sides of a pattern that was read, as they stand around the arrow of its text. -/
theorem exists_sides_of_parse (h : parse text = .ok pattern) :
    ∃ inputs outputs, Text.compact text.toList = inputs ++ arrow.toList ++ outputs ∧
      pattern.inputs.WrittenAs inputs ∧ Text.compact inputs = inputs ∧
      pattern.outputs.WrittenAs outputs ∧ Text.compact outputs = outputs := by
  obtain ⟨-, inputs, outputs, -, -, htext, hinputs, houtputs⟩ := parse_eq_ok_iff.1 h
  have hbefore : inputs.Sublist (Text.compact text.toList) := by simp [htext]
  have hafter : outputs.Sublist (Text.compact text.toList) := by simp [htext]
  exact ⟨inputs, outputs, htext, hinputs, Text.compact_of_sublist hbefore, houtputs,
    Text.compact_of_sublist hafter⟩

theorem parse_text (h : parse text = .ok pattern) : parse pattern.text = .ok pattern := by
  obtain ⟨inputs, outputs, htext, hinputs, hbefore, houtputs, hafter⟩ := exists_sides_of_parse h
  have hspace : Text.compact [' '] = [] := by decide
  have harrow : Text.compact arrow.toList = arrow.toList := by decide
  have hcompact : Text.compact pattern.text.toList = Text.compact text.toList :=
    calc Text.compact pattern.text.toList
        = Text.compact (inputs ++ [' '] ++ arrow.toList ++ [' '] ++ outputs) := by
          rw [Pattern.text, hinputs.1, houtputs.1]
          simp
      _ = inputs ++ arrow.toList ++ outputs := by
          simp only [Text.compact_append, hspace, harrow, hbefore, hafter, List.append_nil]
      _ = Text.compact text.toList := htext.symm
  rw [parse_eq_ok_iff, hcompact]
  exact parse_eq_ok_iff.1 h

theorem parse_sides (h : parse text = .ok pattern) :
    Formula.parse pattern.inputs.source = .ok pattern.inputs ∧
      Formula.parse pattern.outputs.source = .ok pattern.outputs := by
  obtain ⟨inputs, outputs, -, hinputs, hbefore, houtputs, hafter⟩ := exists_sides_of_parse h
  exact ⟨hinputs.parse_source hbefore, houtputs.parse_source hafter⟩

end Pattern

/-- What is read is written back. The texts of the dimensions of a formula are, one after the other,
the text it was read from. The formulas of a side with commas between them are its text without white
space and without empty pieces, and are read from it again. And the text of every formula, side and
pattern that was read is read as the same one. -/
theorem formula_texts_round_trip :
    (∀ text tensor, TensorFormula.parse text = .ok tensor →
      String.join (tensor.dimensions.map Dimension.text) = text ∧
        TensorFormula.parse tensor.source = .ok tensor) ∧
    (∀ text formula, Formula.parse text = .ok formula →
      (∃ pieces, Formula.CutAtCommas (Text.compact text.toList) pieces) ∧
      (∀ pieces, Formula.CutAtCommas (Text.compact text.toList) pieces →
        formula.joined.toList = [','].intercalate (pieces.filter (!·.isEmpty))) ∧
      Formula.parse formula.joined = .ok ⟨formula.joined, formula.tensors⟩ ∧
      Formula.parse formula.source = .ok formula ∧
      ∀ tensor ∈ formula.tensors, TensorFormula.parse tensor.source = .ok tensor) ∧
    (∀ text pattern, Pattern.parse text = .ok pattern →
      Pattern.parse pattern.text = .ok pattern ∧
        Formula.parse pattern.inputs.source = .ok pattern.inputs ∧
        Formula.parse pattern.outputs.source = .ok pattern.outputs) := by
  refine ⟨fun text tensor h => ⟨TensorFormula.join_texts h, TensorFormula.parse_source h⟩,
    fun text formula h => ⟨Formula.exists_cut_of_parse h, fun pieces => Formula.toList_joined h,
      Formula.parse_joined h, Formula.parse_source h, ?_⟩,
    fun text pattern h => ⟨Pattern.parse_text h, Pattern.parse_sides h⟩⟩
  exact Formula.parse_source_of_listedIn (Formula.ofCompact_eq_ok_iff.1 h).2

end ShapeAssert
