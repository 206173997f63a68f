import ShapeAssert.Formula.Pattern
import ShapeAssert.Proofs.Expr.Nodes
import ShapeAssert.Proofs.Formula.Segments

/-! Which texts are patterns: those of two sides with something on each and the only arrow between
them. An expression has no arrow in it, so an arrow inside a group is one too many. -/

namespace ShapeAssert

namespace Pattern

/-- The text has a single arrow, with these texts before and after it. -/
def OneArrow (text before after : List Char) : Prop :=
  ∀ left right, text = left ++ arrow.toList ++ right ↔ left = before ∧ right = after

/-- The way to write a pattern. -/
def WrittenAs (pattern : Pattern) (text : List Char) : Prop :=
  pattern.source = String.ofList text ∧
    ∃ inputs outputs, inputs ≠ [] ∧ outputs ≠ [] ∧ text = inputs ++ arrow.toList ++ outputs ∧
      pattern.inputs.WrittenAs inputs ∧ pattern.outputs.WrittenAs outputs

/-! ### Cutting at arrows -/

section

variable {text before after : List Char}

theorem splitArrows_ne_nil : splitArrows text ≠ [] := by
  fun_induction splitArrows text <;> simp_all

theorem splitArrows_cons {c : Char} (h : ∀ rest, c = '-' → text = '>' :: rest → False) :
    splitArrows (c :: text) = (splitArrows text).modifyHead (c :: ·) := by
  rw [splitArrows]
  · cases htext : splitArrows text with
    | nil => exact absurd htext splitArrows_ne_nil
    | cons first others => rfl
  · exact h

theorem intercalate_splitArrows : arrow.toList.intercalate (splitArrows text) = text := by
  fun_induction splitArrows text with
  | case1 => rfl
  | case2 rest ih =>
      rw [List.intercalate_cons_of_ne_nil splitArrows_ne_nil, ih]
      rfl
  | case3 c rest _ hrest _ => exact absurd hrest splitArrows_ne_nil
  | case4 c rest _ first others hrest ih => rw [List.intercalate_cons_cons_left, ← hrest, ih]

/-- The cuts before and after an arrow are those of the text before it and of the text after it: no
two arrows overlap. -/
theorem splitArrows_append :
    splitArrows (before ++ arrow.toList ++ after) = splitArrows before ++ splitArrows after := by
  fun_induction splitArrows before with
  | case1 => rfl
  | case2 rest ih =>
      rw [List.cons_append, List.cons_append, List.cons_append, List.cons_append, splitArrows, ih]
      rfl
  | case3 c rest _ hrest _ => exact absurd hrest splitArrows_ne_nil
  | case4 c rest hnext first others hrest ih =>
      rw [List.cons_append, List.cons_append, splitArrows_cons, ih, hrest]
      · rfl
      · rintro tail rfl htail
        cases rest with
        | nil => cases htail
        | cons d rest =>
            obtain ⟨rfl, -⟩ := List.cons.inj htail
            exact hnext rest rfl rfl

theorem eq_of_splitArrows {piece : List Char} (h : splitArrows text = [piece]) : text = piece := by
  have htext : arrow.toList.intercalate (splitArrows text) = text := intercalate_splitArrows
  rwa [h, List.intercalate_singleton, eq_comm] at htext

/-- A text that is cut has an arrow. -/
theorem splitArrows_eq_singleton (h : ∀ left right, text ≠ left ++ arrow.toList ++ right) :
    splitArrows text = [text] := by
  have htext : arrow.toList.intercalate (splitArrows text) = text := intercalate_splitArrows
  cases hcuts : splitArrows text with
  | nil => exact absurd hcuts splitArrows_ne_nil
  | cons first others =>
      cases others with
      | nil => rw [eq_of_splitArrows hcuts]
      | cons next others =>
          rw [hcuts, List.intercalate_cons_cons] at htext
          exact absurd htext.symm (h _ _)

private theorem eq_singletons_of_append {xs ys : List (List Char)} {x y : List Char}
    (h : xs ++ ys = [x, y]) (hxs : xs ≠ []) (hys : ys ≠ []) : xs = [x] ∧ ys = [y] := by
  obtain ⟨x', xs, rfl⟩ := List.exists_cons_of_ne_nil hxs
  obtain ⟨y', ys, rfl⟩ := List.exists_cons_of_ne_nil hys
  cases xs with
  | nil =>
      obtain ⟨rfl, htail⟩ := List.cons.inj h
      exact ⟨rfl, htail⟩
  | cons z xs => simp at h

theorem splitArrows_eq_pair_iff :
    splitArrows text = [before, after] ↔ OneArrow text before after := by
  constructor
  · intro h left right
    constructor
    · rintro rfl
      rw [splitArrows_append] at h
      obtain ⟨hleft, hright⟩ := eq_singletons_of_append h splitArrows_ne_nil splitArrows_ne_nil
      exact ⟨eq_of_splitArrows hleft, eq_of_splitArrows hright⟩
    · rintro ⟨rfl, rfl⟩
      have htext : arrow.toList.intercalate (splitArrows text) = text := intercalate_splitArrows
      rw [← htext, h, List.intercalate_cons_cons, List.intercalate_singleton]
  · intro h
    have htext : text = before ++ arrow.toList ++ after := (h before after).2 ⟨rfl, rfl⟩
    -- A second arrow on either side would be a second way to cut the text.
    have hbefore : splitArrows before = [before] := by
      refine splitArrows_eq_singleton fun left right hsplit => ?_
      have hcut := (h left (right ++ arrow.toList ++ after)).1 (by simp [htext, hsplit])
      rw [hcut.1] at hsplit
      simp [arrow] at hsplit
    have hafter : splitArrows after = [after] := by
      refine splitArrows_eq_singleton fun left right hsplit => ?_
      have hcut := (h (before ++ arrow.toList ++ left) right).1 (by simp [htext, hsplit])
      exact absurd hcut.1 (by simp [arrow])
    rw [htext, splitArrows_append, hbefore, hafter]
    rfl

end

/-! ### The sides -/

theorem sides_eq_ok_iff {text inputs outputs : List Char} :
    sides text = .ok (inputs, outputs) ↔
      OneArrow text inputs outputs ∧ inputs ≠ [] ∧ outputs ≠ [] := by
  rw [← splitArrows_eq_pair_iff]
  constructor
  · intro h
    rw [sides] at h
    split at h
    · next before after hcuts =>
      split at h
      · next hfull =>
        obtain ⟨rfl, rfl⟩ := Prod.mk.inj (Except.ok.inj h)
        simpa [hcuts] using hfull
      · cases h
    · cases h
  · rintro ⟨hcuts, hinputs, houtputs⟩
    rw [sides, hcuts]
    simp [hinputs, houtputs]

/-- An arrow between texts without its head is the only one. -/
theorem oneArrow_of_not_mem {before after : List Char} (hbefore : '>' ∉ before)
    (hafter : '>' ∉ after) : OneArrow (before ++ arrow.toList ++ after) before after := by
  have hwhole {text : List Char} (h : '>' ∉ text) : splitArrows text = [text] :=
    splitArrows_eq_singleton fun left right hsplit => h (by simp [hsplit, arrow])
  rw [← splitArrows_eq_pair_iff, splitArrows_append, hwhole hbefore, hwhole hafter]
  rfl

end Pattern

/-- No expression and no letter has the head of an arrow in it. -/
theorem Dimension.WrittenAs.arrowHead_not_mem {dimension : Dimension} {word : List Char}
    (h : dimension.WrittenAs word) : '>' ∉ word := by
  cases h with
  | @letter c hletter =>
      intro hmem
      obtain rfl := List.mem_singleton.1 hmem
      exact absurd hletter (by decide)
  | group _ he =>
      intro hmem
      obtain ⟨tokens, hscan, -⟩ := Expr.parse_eq_ok_iff.1 he
      have hclass := Token.class_of_scan hscan '>' (by simpa using hmem)
      exact absurd hclass (by decide)

theorem Dimension.Spell.arrowHead_not_mem {dimensions : List Dimension} {text : List Char}
    (h : Spell dimensions text) : '>' ∉ text := by
  induction h with
  | nil => exact List.not_mem_nil
  | cons hword _ ih => exact List.not_mem_append hword.arrowHead_not_mem ih

theorem TensorFormula.ListedIn.arrowHead_not_mem {tensors : List TensorFormula} {text : List Char}
    (h : ListedIn tensors text) : '>' ∉ text :=
  h.induction (by decide) List.not_mem_append Dimension.Spell.arrowHead_not_mem

/-- The letters of a formula are the bare ones and those of the names in its groups. -/
theorem TensorFormula.mem_letters {tensor : TensorFormula} {c : Char} :
    c ∈ tensor.letters ↔ .letter c ∈ tensor.dimensions ∨
      ∃ source e, .group source e ∈ tensor.dimensions ∧
        ∃ name, .var name ∈ e.nodes ∧ c ∈ name.toList := by
  rw [Axes.mem_letters]
  constructor
  · rintro ⟨dimension, hdimension, hc⟩
    cases dimension with
    | letter d =>
        obtain rfl := List.mem_singleton.1 hc
        exact .inl hdimension
    | group source e => exact .inr ⟨source, e, hdimension, (Expr.mem_nameLetters e).1 hc⟩
  · rintro (hletter | ⟨source, e, hgroup, hname⟩)
    · exact ⟨_, hletter, List.mem_singleton_self c⟩
    · exact ⟨_, hgroup, (Expr.mem_nameLetters e).2 hname⟩

/-! ### The failures -/

theorem TensorFormula.parse_ne_patternArity {source text : String} {found : Nat} :
    parse source ≠ .error (.patternArity text found) := by
  intro h
  obtain ⟨fault, hscan, hfault⟩ := parse_eq_error h
  cases fault with
  | emptyParenthesis => cases hfault
  | unclosedParenthesis => cases hfault
  | invalidCharacter character => cases hfault
  | group e =>
      obtain ⟨group, hgroup⟩ := scan_eq_error_group hscan
      obtain ⟨fault, rfl⟩ := Expr.parse_eq_error hgroup
      cases hfault

theorem Formula.ofCompact_ne_patternArity {text : List Char} {quoted : String} {found : Nat} :
    ofCompact text ≠ .error (.patternArity quoted found) := by
  intro h
  rcases bind_eq_error.1 h with h | ⟨tensors, -, h⟩
  · obtain ⟨segment, -, hsegment⟩ := mapM_eq_error h
    exact TensorFormula.parse_ne_patternArity hsegment
  · cases h

namespace Pattern

theorem parse_eq_patternArity_iff {text quoted : String} {found : Nat} :
    parse text = .error (.patternArity quoted found) ↔
      quoted = text ∧ sides (Text.compact text.toList) = .error found := by
  constructor
  · intro h
    rcases bind_eq_error.1 h with h | ⟨⟨left, right⟩, -, h⟩
    · obtain ⟨found', hsides, herror⟩ := mapError_eq_error.1 h
      obtain ⟨rfl, rfl⟩ := Error.patternArity.inj herror
      exact ⟨rfl, hsides⟩
    rcases bind_eq_error.1 h with h | ⟨inputs, -, h⟩
    · exact absurd h Formula.ofCompact_ne_patternArity
    rcases bind_eq_error.1 h with h | ⟨outputs, -, h⟩
    · exact absurd h Formula.ofCompact_ne_patternArity
    · cases h
  · rintro ⟨rfl, hsides⟩
    exact bind_eq_error.2 (.inl (mapError_eq_error.2 ⟨found, hsides, rfl⟩))

/-- Reading a pattern accepts exactly the texts that write one, and gives that pattern. -/
theorem parse_eq_ok_iff {text : String} {pattern : Pattern} :
    parse text = .ok pattern ↔ pattern.WrittenAs (Text.compact text.toList) := by
  constructor
  · intro h
    obtain ⟨⟨left, right⟩, hsides, h⟩ := bind_eq_ok.1 h
    obtain ⟨inputs, hinputs, h⟩ := bind_eq_ok.1 h
    obtain ⟨outputs, houtputs, h⟩ := bind_eq_ok.1 h
    obtain rfl := Except.ok.inj h
    obtain ⟨harrow, hleft, hright⟩ := sides_eq_ok_iff.1 (mapError_eq_ok.1 hsides)
    exact ⟨rfl, left, right, hleft, hright, (harrow left right).2 ⟨rfl, rfl⟩,
      Formula.ofCompact_eq_ok_iff.1 hinputs, Formula.ofCompact_eq_ok_iff.1 houtputs⟩
  · rintro ⟨hsource, left, right, hleft, hright, htext, hinputs, houtputs⟩
    have hsides : sides (Text.compact text.toList) = .ok (left, right) := by
      rw [htext]
      have harrow := oneArrow_of_not_mem hinputs.2.arrowHead_not_mem houtputs.2.arrowHead_not_mem
      exact sides_eq_ok_iff.2 ⟨harrow, hleft, hright⟩
    refine bind_eq_ok.2 ⟨(left, right), mapError_eq_ok.2 hsides, ?_⟩
    refine bind_eq_ok.2 ⟨_, Formula.ofCompact_eq_ok_iff.2 hinputs, ?_⟩
    refine bind_eq_ok.2 ⟨_, Formula.ofCompact_eq_ok_iff.2 houtputs, ?_⟩
    rw [← hsource]

theorem WrittenAs.balanced {pattern : Pattern} {text : List Char} (h : pattern.WrittenAs text) :
    Balanced text := by
  obtain ⟨-, inputs, outputs, -, -, rfl, hinputs, houtputs⟩ := h
  have harrow : Balanced arrow.toList :=
    .plain (by decide) (by decide) (.plain (by decide) (by decide) .nil)
  exact (hinputs.2.balanced.append harrow).append houtputs.2.balanced

/-- A text is read as a pattern exactly if, white space apart, it is two sides of which neither is
empty with an arrow between them, where a side is a list of formulas with commas between them and a
formula is letters and groups one after the other. What is read has these formulas in order, and the
letters of each are its bare ones and those of the names in its groups. The number of sides is wrong
exactly if there is not a single arrow with something on either side, and parentheses without a match
are always refused. -/
theorem parse_reads_exactly_written_patterns (text : String) :
    (∀ pattern : Pattern,
      parse text = .ok pattern ↔ pattern.WrittenAs (Text.compact text.toList)) ∧
    (∀ pattern : Pattern, parse text = .ok pattern →
      ∀ tensor ∈ pattern.inputs.tensors ++ pattern.outputs.tensors, ∀ c : Char,
        c ∈ tensor.letters ↔ .letter c ∈ tensor.dimensions ∨
          ∃ source e, .group source e ∈ tensor.dimensions ∧
            ∃ name, .var name ∈ e.nodes ∧ c ∈ name.toList) ∧
    (∀ quoted : String, (∃ found, parse text = .error (.patternArity quoted found)) ↔
      quoted = text ∧ ¬∃ before after, before ≠ [] ∧ after ≠ [] ∧
        OneArrow (Text.compact text.toList) before after) ∧
    (¬Balanced (Text.compact text.toList) → ∃ error, parse text = .error error) := by
  refine ⟨fun _ => parse_eq_ok_iff, fun _ _ _ _ _ => TensorFormula.mem_letters, fun quoted => ?_,
    fun hunbalanced => ?_⟩
  · have hfound : (∃ found, parse text = .error (.patternArity quoted found)) ↔
        quoted = text ∧ ∃ found, sides (Text.compact text.toList) = .error found := by
      simp only [parse_eq_patternArity_iff, exists_and_left]
    rw [hfound]
    refine and_congr_right fun _ => ?_
    cases hsides : sides (Text.compact text.toList) with
    | error found =>
        refine ⟨fun _ => ?_, fun _ => ⟨found, rfl⟩⟩
        rintro ⟨before, after, hbefore, hafter, harrow⟩
        have hok := sides_eq_ok_iff.2 ⟨harrow, hbefore, hafter⟩
        rw [hsides] at hok
        cases hok
    | ok cut =>
        obtain ⟨before, after⟩ := cut
        obtain ⟨harrow, hbefore, hafter⟩ := sides_eq_ok_iff.1 hsides
        refine ⟨?_, fun hnone => absurd ⟨before, after, hbefore, hafter, harrow⟩ hnone⟩
        rintro ⟨found, hfound⟩
        cases hfound
  · cases hparse : parse text with
    | error error => exact ⟨error, rfl⟩
    | ok pattern => exact absurd (parse_eq_ok_iff.1 hparse).balanced hunbalanced

end Pattern

end ShapeAssert
