import ShapeAssert.Formula.Basic
import ShapeAssert.Proofs.Formula.Grammar

/-! How the formulas of several tensors are written: with commas between them, where nothing need
stand between two commas. The commas inside a group belong to it, since its parentheses match. -/

namespace ShapeAssert

/-- The way to write the formula of a tensor. -/
def TensorFormula.WrittenAs (formula : TensorFormula) (text : List Char) : Prop :=
  formula.source = String.ofList text ∧ Dimension.Spell formula.dimensions text

/-- The ways to write the formulas of several tensors. -/
def TensorFormula.ListedIn (tensors : List TensorFormula) (text : List Char) : Prop :=
  ∃ segments : List (List Char), text = [','].intercalate segments ∧
    List.Forall₂ WrittenAs tensors (segments.filter (!·.isEmpty))

/-- The ways to write one side of a pattern. -/
def Formula.WrittenAs (formula : Formula) (text : List Char) : Prop :=
  formula.source = String.ofList text ∧ TensorFormula.ListedIn formula.tensors text

theorem TensorFormula.exists_spell_of_mem {tensors : List TensorFormula}
    {segments : List (List Char)}
    (h : List.Forall₂ WrittenAs tensors (segments.filter (!·.isEmpty))) :
    ∀ segment ∈ segments, ∃ dimensions, Dimension.Spell dimensions segment := by
  intro segment hsegment
  cases segment with
  | nil => exact ⟨[], .nil⟩
  | cons c rest =>
      obtain ⟨tensor, -, -, hspell⟩ := exists_of_mem_forall₂ h (List.mem_filter.2 ⟨hsegment, rfl⟩)
      exact ⟨_, hspell⟩

/-- What holds of the comma and of the formulas of single tensors, and of two texts one after the
other if it holds of both, holds of a text that lists formulas. -/
theorem TensorFormula.ListedIn.induction {tensors : List TensorFormula} {text : List Char}
    {P : List Char → Prop} (h : ListedIn tensors text) (comma : P [','])
    (append : ∀ {left right}, P left → P right → P (left ++ right))
    (spell : ∀ {dimensions segment}, Dimension.Spell dimensions segment → P segment) : P text := by
  obtain ⟨segments, rfl, hwritten⟩ := h
  have hsegments := exists_spell_of_mem hwritten
  clear hwritten
  induction segments with
  | nil => exact spell .nil
  | cons segment others ih =>
      obtain ⟨⟨_, hspell⟩, hothers⟩ := List.forall_mem_cons.1 hsegments
      cases others with
      | nil =>
          rw [List.intercalate_singleton]
          exact spell hspell
      | cons other others =>
          rw [List.intercalate_cons_cons]
          exact append (append (spell hspell) comma) (ih hothers)

theorem TensorFormula.ListedIn.balanced {tensors : List TensorFormula} {text : List Char}
    (h : ListedIn tensors text) : Balanced text :=
  h.induction (.plain (by decide) (by decide) .nil) .append Dimension.Spell.balanced

namespace Formula

/-- Puts a text before the first of several pieces. -/
def prependFirst (word : List Char) (pieces : List (List Char)) : List (List Char) :=
  pieces.modifyHead (word ++ ·)

@[simp] theorem prependFirst_nil {pieces : List (List Char)} : prependFirst [] pieces = pieces :=
  congrFun List.modifyHead_id pieces

@[simp] theorem prependFirst_cons {word first : List Char} {others : List (List Char)} :
    prependFirst word (first :: others) = (word ++ first) :: others := rfl

theorem prependFirst_append {left right : List Char} {pieces : List (List Char)} :
    prependFirst (left ++ right) pieces = prependFirst left (prependFirst right pieces) := by
  cases pieces with
  | nil => rfl
  | cons first others => simp

theorem prependFirst_append_of_ne_nil {word : List Char} {pieces others : List (List Char)}
    (h : pieces ≠ []) :
    prependFirst word (pieces ++ others) = prependFirst word pieces ++ others := by
  obtain ⟨first, rest, rfl⟩ := List.exists_cons_of_ne_nil h
  rfl

/-! ### Cutting at commas -/

/-- A text whose parentheses match, with no comma outside them. -/
def Uncut (piece : List Char) : Prop :=
  Balanced piece ∧ ∀ left right, piece = left ++ ',' :: right → ¬Balanced left

/-- The pieces between the commas of a text that are outside all parentheses. -/
def CutAtCommas (text : List Char) (pieces : List (List Char)) : Prop :=
  pieces ≠ [] ∧ text = [','].intercalate pieces ∧ ∀ piece ∈ pieces, Uncut piece

section

variable {depth : Int} {rest : List Char}

theorem splitTopLevel_ne_nil {text : List Char} : splitTopLevel depth text ≠ [] := by
  fun_induction splitTopLevel depth text <;> simp_all

theorem splitTopLevel_cons_eq {text : List Char} {c : Char} {after : Int}
    (hcut : ¬(c = ',' ∧ depth = 0))
    (hafter : (if c = '(' then depth + 1 else if c = ')' then depth - 1 else depth) = after) :
    splitTopLevel depth (c :: text) = prependFirst [c] (splitTopLevel after text) := by
  rw [splitTopLevel, if_neg hcut, hafter]
  cases hrest : splitTopLevel after text with
  | nil => exact absurd hrest splitTopLevel_ne_nil
  | cons first others => simp [hrest]

theorem splitTopLevel_comma : splitTopLevel 0 (',' :: rest) = [] :: splitTopLevel 0 rest := rfl

theorem splitTopLevel_open :
    splitTopLevel depth ('(' :: rest) = prependFirst ['('] (splitTopLevel (depth + 1) rest) :=
  splitTopLevel_cons_eq (by simp) rfl

theorem splitTopLevel_close :
    splitTopLevel (depth + 1) (')' :: rest) = prependFirst [')'] (splitTopLevel depth rest) :=
  splitTopLevel_cons_eq (by simp) (by simp)

theorem splitTopLevel_plain {c : Char} (hopen : c ≠ '(') (hclose : c ≠ ')')
    (hcut : ¬(c = ',' ∧ depth = 0)) :
    splitTopLevel depth (c :: rest) = prependFirst [c] (splitTopLevel depth rest) :=
  splitTopLevel_cons_eq hcut (by rw [if_neg hopen, if_neg hclose])

/-- With the commas put back, the pieces give the text that was cut. -/
theorem intercalate_splitTopLevel {text : List Char} :
    [','].intercalate (splitTopLevel depth text) = text := by
  induction text generalizing depth with
  | nil => rfl
  | cons c rest ih =>
      by_cases hcut : c = ',' ∧ depth = 0
      · obtain ⟨rfl, rfl⟩ := hcut
        rw [splitTopLevel_comma, List.intercalate_cons_of_ne_nil splitTopLevel_ne_nil, ih]
        rfl
      · rw [splitTopLevel_cons_eq hcut rfl]
        generalize (if c = '(' then depth + 1 else if c = ')' then depth - 1 else depth) = after
        have hne : splitTopLevel after rest ≠ [] := splitTopLevel_ne_nil
        obtain ⟨first, others, hcuts⟩ := List.exists_cons_of_ne_nil hne
        rw [hcuts, prependFirst_cons, List.singleton_append, List.intercalate_cons_cons_left,
          ← hcuts, ih]

/-- A text whose parentheses match is not cut between parentheses. -/
theorem splitTopLevel_balanced {inner : List Char} (h : Balanced inner) (hdepth : 0 < depth) :
    splitTopLevel depth (inner ++ rest) = prependFirst inner (splitTopLevel depth rest) := by
  induction h generalizing depth rest with
  | nil => exact prependFirst_nil.symm
  | @plain c text hopen hclose _ ih =>
      have hcut : ¬(c = ',' ∧ depth = 0) := by omega
      rw [List.cons_append, splitTopLevel_plain hopen hclose hcut, ih hdepth,
        ← prependFirst_append, List.singleton_append]
  | @nest text text' _ _ ih ih' =>
      have hinner : 0 < depth + 1 := by omega
      rw [List.cons_append, List.append_assoc, List.cons_append, splitTopLevel_open, ih hinner,
        splitTopLevel_close, ih' hdepth]
      simp only [← prependFirst_append, List.singleton_append]

theorem splitTopLevel_nest {inner : List Char} (h : Balanced inner) :
    splitTopLevel 0 ('(' :: (inner ++ ')' :: rest)) =
      prependFirst ('(' :: (inner ++ [')'])) (splitTopLevel 0 rest) := by
  rw [splitTopLevel_open, splitTopLevel_balanced h (by omega), splitTopLevel_close]
  simp only [← prependFirst_append, List.singleton_append]

theorem splitTopLevel_writtenAs {dimension : Dimension} {word : List Char}
    (h : dimension.WrittenAs word) :
    splitTopLevel 0 (word ++ rest) = prependFirst word (splitTopLevel 0 rest) := by
  cases h with
  | @letter c hletter =>
      obtain ⟨hopen, hclose⟩ := Text.ne_parenthesis_of_isLetter hletter
      have hcomma : c ≠ ',' := by
        rintro rfl
        exact absurd hletter (by decide)
      exact splitTopLevel_plain hopen hclose fun hcut => hcomma hcut.1
  | group hinner _ =>
      rw [List.cons_append, List.append_assoc, List.singleton_append, splitTopLevel_nest hinner]

theorem splitTopLevel_spell {dimensions : List Dimension} {segment : List Char}
    (h : Dimension.Spell dimensions segment) :
    splitTopLevel 0 (segment ++ rest) = prependFirst segment (splitTopLevel 0 rest) := by
  induction h generalizing rest with
  | nil => exact prependFirst_nil.symm
  | cons hword _ ih =>
      rw [List.append_assoc, splitTopLevel_writtenAs hword, ih, ← prependFirst_append]

/-- A comma after a text whose parentheses match is cut at. -/
theorem splitTopLevel_append_comma {left : List Char} (h : Balanced left) :
    splitTopLevel 0 (left ++ ',' :: rest) = splitTopLevel 0 left ++ splitTopLevel 0 rest := by
  induction h with
  | nil => exact splitTopLevel_comma
  | @plain c text hopen hclose _ ih =>
      rw [List.cons_append]
      by_cases hcomma : c = ','
      · rw [hcomma, splitTopLevel_comma, ih, splitTopLevel_comma, List.cons_append]
      · have hcut : ¬(c = ',' ∧ (0 : Int) = 0) := fun hcut => hcomma hcut.1
        rw [splitTopLevel_plain hopen hclose hcut, ih, splitTopLevel_plain hopen hclose hcut,
          prependFirst_append_of_ne_nil splitTopLevel_ne_nil]
  | nest hinner _ _ ih =>
      rw [List.cons_append, List.append_assoc, List.cons_append, splitTopLevel_nest hinner, ih,
        splitTopLevel_nest hinner, prependFirst_append_of_ne_nil splitTopLevel_ne_nil]

theorem splitTopLevel_uncut {piece : List Char} (h : Uncut piece) :
    splitTopLevel 0 (piece ++ rest) = prependFirst piece (splitTopLevel 0 rest) := by
  obtain ⟨hbalanced, hcommas⟩ := h
  induction hbalanced with
  | nil => exact prependFirst_nil.symm
  | @plain c text hopen hclose _ ih =>
      have hcut : ¬(c = ',' ∧ (0 : Int) = 0) := by
        rintro ⟨rfl, -⟩
        exact hcommas [] text rfl .nil
      have htext : ∀ left right, text = left ++ ',' :: right → ¬Balanced left :=
        fun left right hsplit hleft =>
          hcommas (c :: left) right (by rw [hsplit, List.cons_append]) (.plain hopen hclose hleft)
      rw [List.cons_append, splitTopLevel_plain hopen hclose hcut, ih htext, ← prependFirst_append,
        List.singleton_append]
  | @nest inner text hinner _ _ ih =>
      have htext : ∀ left right, text = left ++ ',' :: right → ¬Balanced left :=
        fun left right hsplit hleft =>
          hcommas ('(' :: (inner ++ ')' :: left)) right (by simp [hsplit]) (.nest hinner hleft)
      rw [List.cons_append, List.append_assoc, List.cons_append, splitTopLevel_nest hinner, ih htext,
        ← prependFirst_append]
      simp

end

/-- The formula of one tensor has no comma outside its parentheses. -/
theorem uncut_of_spell {dimensions : List Dimension} {segment : List Char}
    (h : Dimension.Spell dimensions segment) : Uncut segment := by
  refine ⟨h.balanced, fun left right hsplit hleft => ?_⟩
  have hwhole : splitTopLevel 0 (segment ++ []) = [segment ++ []] := splitTopLevel_spell h
  rw [List.append_nil, hsplit, splitTopLevel_append_comma hleft] at hwhole
  have hcuts := congrArg List.length hwhole
  have hbefore : 0 < (splitTopLevel 0 left).length := List.length_pos_of_ne_nil splitTopLevel_ne_nil
  have hafter : 0 < (splitTopLevel 0 right).length := List.length_pos_of_ne_nil splitTopLevel_ne_nil
  rw [List.length_append, List.length_singleton] at hcuts
  omega

/-- Pieces with commas between them are cut at these commas, if there are no others outside
parentheses. -/
theorem splitTopLevel_intercalate {pieces : List (List Char)} (hne : pieces ≠ [])
    (h : ∀ piece ∈ pieces, Uncut piece) : splitTopLevel 0 ([','].intercalate pieces) = pieces := by
  induction pieces with
  | nil => exact absurd rfl hne
  | cons piece others ih =>
      obtain ⟨hpiece, hothers⟩ := List.forall_mem_cons.1 h
      cases others with
      | nil =>
          have hcut : splitTopLevel 0 (piece ++ []) = [piece ++ []] := splitTopLevel_uncut hpiece
          rwa [List.intercalate_singleton, ← List.append_nil piece]
      | cons other others =>
          rw [List.intercalate_cons_cons, List.append_assoc, List.singleton_append,
            splitTopLevel_uncut hpiece, splitTopLevel_comma, ih (List.cons_ne_nil _ _) hothers,
            prependFirst_cons, List.append_nil]

theorem CutAtCommas.splitTopLevel_eq {text : List Char} {pieces : List (List Char)}
    (h : CutAtCommas text pieces) : splitTopLevel 0 text = pieces := by
  obtain ⟨hne, rfl, huncut⟩ := h
  exact splitTopLevel_intercalate hne huncut

theorem CutAtCommas.unique {text : List Char} {pieces pieces' : List (List Char)}
    (h : CutAtCommas text pieces) (h' : CutAtCommas text pieces') : pieces = pieces' :=
  h.splitTopLevel_eq.symm.trans h'.splitTopLevel_eq

example : splitTopLevel 0 "a(min(b,c)),,d".toList = ["a(min(b,c))".toList, [], "d".toList] := by
  decide

/-! ### Reading the formulas -/

theorem parse_eq_ok_iff_writtenAs {text : List Char} {tensor : TensorFormula} :
    TensorFormula.parse (String.ofList text) = .ok tensor ↔ tensor.WrittenAs text := by
  rw [TensorFormula.parse_eq_ok_iff, String.toList_ofList, TensorFormula.WrittenAs]

theorem parse_source_of_listedIn {tensors : List TensorFormula} {text : List Char}
    (h : TensorFormula.ListedIn tensors text) :
    ∀ tensor ∈ tensors, TensorFormula.parse tensor.source = .ok tensor := by
  intro tensor htensor
  obtain ⟨segments, -, hwritten⟩ := h
  obtain ⟨segment, -, hsegment⟩ := exists_of_mem_forall₂ hwritten.flip htensor
  rw [hsegment.1]
  exact parse_eq_ok_iff_writtenAs.2 hsegment

/-- A text that lists formulas is cut between them. -/
theorem exists_cut_of_listedIn {tensors : List TensorFormula} {text : List Char}
    (h : TensorFormula.ListedIn tensors text) :
    ∃ pieces, CutAtCommas text pieces ∧
      List.Forall₂ TensorFormula.WrittenAs tensors (pieces.filter (!·.isEmpty)) := by
  obtain ⟨segments, rfl, hwritten⟩ := h
  by_cases hne : segments = []
  · -- Nothing between no commas is one empty piece.
    subst hne
    exact ⟨[[]], ⟨List.cons_ne_nil _ _, rfl, List.forall_mem_singleton.2 (uncut_of_spell .nil)⟩,
      hwritten⟩
  · refine ⟨segments, ⟨hne, rfl, fun segment hsegment => ?_⟩, hwritten⟩
    obtain ⟨dimensions, hspell⟩ := TensorFormula.exists_spell_of_mem hwritten segment hsegment
    exact uncut_of_spell hspell

/-- Reading the formulas of several tensors accepts exactly the texts that list some, and gives
these. -/
theorem ofCompact_eq_ok_iff {text : List Char} {formula : Formula} :
    ofCompact text = .ok formula ↔ formula.WrittenAs text := by
  constructor
  · intro h
    obtain ⟨tensors, htensors, hformula⟩ := bind_eq_ok.1 h
    obtain rfl := Except.ok.inj hformula
    refine ⟨rfl, splitTopLevel 0 text, intercalate_splitTopLevel.symm, .flip ?_⟩
    exact (mapM_eq_ok.1 htensors).imp fun segment tensor => parse_eq_ok_iff_writtenAs.1
  · rintro ⟨hsource, hlisted⟩
    obtain ⟨pieces, hcut, hwritten⟩ := exists_cut_of_listedIn hlisted
    refine bind_eq_ok.2 ⟨formula.tensors, ?_, by rw [← hsource]⟩
    rw [hcut.splitTopLevel_eq]
    refine mapM_eq_ok.2 (.flip ?_)
    exact hwritten.imp fun tensor segment => parse_eq_ok_iff_writtenAs.2

end Formula

end ShapeAssert
