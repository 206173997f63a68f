import ShapeAssert.Proofs.Formula.Segments

/-! Texts put together. After a text that is a formula the scan is where it began, so what follows is
read as if it stood alone: its dimensions come after those of the text, and what is wrong with it is
wrong with the whole, which is then what the error quotes. On one side of a pattern the same holds
across a comma, where an error quotes the formula it is in and so stays as it is. -/

namespace ShapeAssert

/-- The same error about another formula. What is wrong with a group is no matter of the formula around
it. -/
def Error.about (formula : String) : Error → Error
  | emptyParenthesis _ => emptyParenthesis formula
  | unclosedParenthesis _ => unclosedParenthesis formula
  | invalidCharacter _ character => invalidCharacter formula character
  | e => e

namespace TensorFormula

theorem about_toError {text : List Char} {fault : FormulaFault}
    (h : scan ∅ 0 [] text = .error fault) (source formula : String) :
    (fault.toError source).about formula = fault.toError formula := by
  cases fault with
  | emptyParenthesis => rfl
  | unclosedParenthesis => rfl
  | invalidCharacter character => rfl
  | group e =>
      obtain ⟨group, hgroup⟩ := scan_eq_error_group h
      obtain ⟨fault, rfl⟩ := Expr.parse_eq_error hgroup
      rfl

/-- An error quotes the text that was read. -/
theorem about_of_parse {source : String} {e : Error} (h : parse source = .error e) :
    e.about source = e := by
  obtain ⟨fault, hscan, rfl⟩ := parse_eq_error h
  exact about_toError hscan source source

/-! ### After a formula -/

section

variable {left right : String} {formula : TensorFormula} (h : parse left = .ok formula)
include h

/-- Behind a formula the scan goes on with its axes read. -/
theorem scan_append_of_parse :
    scan ∅ 0 [] (left ++ right).toList = scan formula.toAxes 0 [] right.toList := by
  rw [String.toList_append, scan_append_of_spell (parse_eq_ok_iff.1 h).2,
    formula.toAxes.foldl_push_empty]

theorem parse_append {formula' : TensorFormula} (h' : parse right = .ok formula') :
    parse (left ++ right) =
      .ok ⟨formula'.dimensions.foldl .push formula.toAxes, left ++ right⟩ := by
  rw [parse, scan_append_of_parse h, scan_of_spell (parse_eq_ok_iff.1 h').2]

theorem parse_append_of_scan {fault : FormulaFault}
    (hfault : scan ∅ 0 [] right.toList = .error fault) :
    parse (left ++ right) = .error (fault.toError (left ++ right)) := by
  rw [parse, scan_append_of_parse h, scan_fault hfault]

theorem parse_append_of_error {e : Error} (he : parse right = .error e) :
    parse (left ++ right) = .error (e.about (left ++ right)) := by
  obtain ⟨fault, hfault, rfl⟩ := parse_eq_error he
  rw [parse_append_of_scan h hfault, about_toError hfault]

end

theorem scan_invalid {c : Char} {rest : List Char} (hletter : Text.isLetter c = false)
    (hopen : c ≠ '(') (hclose : c ≠ ')') : scan ∅ 0 [] (c :: rest) = .error (.invalidCharacter c) := by
  rw [scan, if_neg (lt_irrefl 0), if_neg (by simp [hletter])]
  · exact hopen
  · exact hclose

theorem scan_close {rest : List Char} : scan ∅ 0 [] (')' :: rest) = .error .unclosedParenthesis := by
  rw [scan, if_pos rfl]

/-- The letters of two formulas put together are those of either. -/
theorem mem_letters_append {axes other : Axes} {c : Char} :
    c ∈ (other.dimensions.foldl .push axes).letters ↔ c ∈ axes.letters ∨ c ∈ other.letters := by
  simp only [Axes.mem_letters, Axes.dimensions_foldl_push, List.mem_append, or_and_right,
    exists_or]

end TensorFormula

/-! ### After a comma -/

namespace Formula

/-- Reading one side is reading its pieces in order. -/
def readPieces (text : List Char) : Except Error (List TensorFormula) :=
  ((splitTopLevel 0 text).filter (!·.isEmpty)).mapM fun piece =>
    TensorFormula.parse (String.ofList piece)

theorem ofCompact_eq_readPieces (text : List Char) :
    ofCompact text = (readPieces text).map fun tensors => ⟨String.ofList text, tensors⟩ :=
  rfl

/-- The pieces of a text with matching parentheses are read before those behind a comma. -/
theorem readPieces_append_comma {left right : List Char} (hleft : Balanced left) :
    readPieces (left ++ ',' :: right) =
      (readPieces left >>= fun tensors => (readPieces right).map (tensors ++ ·)) := by
  rw [readPieces, splitTopLevel_append_comma hleft, List.filter_append, List.mapM_append]
  rfl

theorem compact_append_comma (left right : String) :
    Text.compact (left ++ "," ++ right).toList =
      Text.compact left.toList ++ ',' :: Text.compact right.toList := by
  have hcomma : Text.compact (',' :: right.toList) = ',' :: Text.compact right.toList :=
    Text.compact_cons_of_not_isSpace (by decide) right.toList
  rw [String.toList_append, String.toList_append, List.append_assoc, Text.compact_append, ← hcomma]
  rfl

section

variable {left right : String} {formula : Formula} (h : parse left = .ok formula)
include h

/-- Behind a comma a side is read as if it stood alone, and an error stays as it is. -/
theorem parse_append_comma :
    parse (left ++ "," ++ right) = (parse right).map fun formula' =>
      ⟨formula.source ++ "," ++ formula'.source, formula.tensors ++ formula'.tensors⟩ := by
  obtain ⟨hsource, hlisted⟩ := ofCompact_eq_ok_iff.1 h
  have htensors : readPieces (Text.compact left.toList) = .ok formula.tensors := by
    obtain ⟨tensors, htensors, hformula⟩ := map_eq_ok.1 h
    rwa [← hformula]
  rw [parse, parse, compact_append_comma, ofCompact_eq_readPieces, ofCompact_eq_readPieces,
    readPieces_append_comma hlisted.balanced, htensors, hsource]
  cases readPieces (Text.compact right.toList) with
  | error e => rfl
  | ok others =>
      refine congrArg Except.ok (congrArg (Formula.mk · _) ?_)
      simp [← String.toList_inj]

end

/-- The letters of two sides put together are those of either. -/
theorem mem_letters_append {source left right : String} {tensors others : List TensorFormula}
    {c : Char} :
    c ∈ letters ⟨source, tensors ++ others⟩ ↔
      c ∈ letters ⟨left, tensors⟩ ∨ c ∈ letters ⟨right, others⟩ := by
  simp only [letters, LetterSet.mem_ofList, List.flatMap_append, List.mem_append]

end Formula

/-- What follows a text that was read is read as if it stood alone. A formula of one tensor followed by
another is a formula with the dimensions of both in order and the letters of either; followed by
a text that is refused it is refused for the same reason, only that the whole text is quoted. So the
first character after it that is neither a letter nor a parenthesis, or a closing parenthesis, is what
is wrong, whatever comes later. A side of a pattern with a comma and another text after it lists the
formulas of both, or fails with the error of the other text. -/
theorem accepted_text_leaves_scan_at_start :
    (∀ left formula, TensorFormula.parse left = .ok formula →
      (∀ right formula', TensorFormula.parse right = .ok formula' →
        ∃ whole, TensorFormula.parse (left ++ right) = .ok whole ∧ whole.source = left ++ right ∧
          whole.dimensions = formula.dimensions ++ formula'.dimensions ∧
          ∀ c, c ∈ whole.letters ↔ c ∈ formula.letters ∨ c ∈ formula'.letters) ∧
      (∀ right e, TensorFormula.parse right = .error e →
        e.about right = e ∧
          TensorFormula.parse (left ++ right) = .error (e.about (left ++ right))) ∧
      (∀ (c : Char) (rest : String), Text.isLetter c = false → c ≠ '(' → c ≠ ')' →
        TensorFormula.parse (left ++ (c.toString ++ rest)) =
          .error (.invalidCharacter (left ++ (c.toString ++ rest)) c)) ∧
      ∀ rest : String, TensorFormula.parse (left ++ (")" ++ rest)) =
        .error (.unclosedParenthesis (left ++ (")" ++ rest)))) ∧
    (∀ left formula, Formula.parse left = .ok formula →
      (∀ right formula', Formula.parse right = .ok formula' →
        ∃ whole, Formula.parse (left ++ "," ++ right) = .ok whole ∧
          whole.tensors = formula.tensors ++ formula'.tensors ∧
          ∀ c, c ∈ whole.letters ↔ c ∈ formula.letters ∨ c ∈ formula'.letters) ∧
      ∀ right e, Formula.parse right = .error e →
        Formula.parse (left ++ "," ++ right) = .error e) := by
  refine ⟨fun left formula h => ⟨fun right formula' h' => ?_, fun right e he => ?_,
    fun c rest hletter hopen hclose => ?_, fun rest => ?_⟩,
    fun left formula h => ⟨fun right formula' h' => ?_, fun right e he => ?_⟩⟩
  · exact ⟨_, TensorFormula.parse_append h h', rfl, Axes.dimensions_foldl_push _ _,
      fun c => TensorFormula.mem_letters_append⟩
  · exact ⟨TensorFormula.about_of_parse he, TensorFormula.parse_append_of_error h he⟩
  · have hfault : TensorFormula.scan ∅ 0 [] (c.toString ++ rest).toList =
        .error (.invalidCharacter c) := by
      rw [String.toList_append, Char.toString, String.toList_singleton]
      exact TensorFormula.scan_invalid hletter hopen hclose
    exact TensorFormula.parse_append_of_scan h hfault
  · have hfault : TensorFormula.scan ∅ 0 [] (")" ++ rest).toList = .error .unclosedParenthesis := by
      rw [String.toList_append]
      exact TensorFormula.scan_close
    exact TensorFormula.parse_append_of_scan h hfault
  · have hwhole : Formula.parse (left ++ "," ++ right) = _ := Formula.parse_append_comma h
    rw [h'] at hwhole
    exact ⟨_, hwhole, rfl, fun c => Formula.mem_letters_append⟩
  · rw [Formula.parse_append_comma h, he]
    rfl

/-- A letter is read behind two others, and a group that is left open is at fault there as well. -/
theorem letters_leave_scan_at_start :
    let left : TensorFormula := ⟨.ofList [.letter 'a', .letter 'b'], "ab"⟩
    let right : TensorFormula := ⟨.ofList [.letter 'c'], "c"⟩
    TensorFormula.parse "ab" = .ok left ∧ TensorFormula.parse "c" = .ok right ∧
      (∃ whole, TensorFormula.parse ("ab" ++ "c") = .ok whole ∧
        whole.dimensions = [.letter 'a', .letter 'b', .letter 'c']) ∧
      TensorFormula.parse "(b" = .error (.unclosedParenthesis "(b") ∧
      TensorFormula.parse ("ab" ++ "(b") = .error (.unclosedParenthesis ("ab" ++ "(b")) := by
  intro left right
  have hleft : TensorFormula.parse "ab" = .ok left := rfl
  have hright : TensorFormula.parse "c" = .ok right := rfl
  have hopen : TensorFormula.parse "(b" = .error (.unclosedParenthesis "(b") := rfl
  obtain ⟨haccepted, hrefused, -⟩ := accepted_text_leaves_scan_at_start.1 "ab" left hleft
  obtain ⟨whole, hwhole, -, hdimensions, -⟩ := haccepted "c" right hright
  exact ⟨hleft, hright, ⟨whole, hwhole, hdimensions⟩, hopen, (hrefused "(b" _ hopen).2⟩

end ShapeAssert
