import ShapeAssert.Proofs.Expr.Spacing
import ShapeAssert.Proofs.Formula.Grammar

/-! White space in the formula of one tensor. It stands inside groups only, where it belongs to an
expression and so does not matter: without it the groups are still balanced and stand for the same
trees. -/

namespace ShapeAssert

theorem Text.isSpace_parentheses : isSpace '(' = false ∧ isSpace ')' = false := by
  decide

theorem Text.compact_group (inner : List Char) :
    compact ('(' :: (inner ++ [')'])) = '(' :: (compact inner ++ [')']) := by
  obtain ⟨hopen, hclose⟩ := isSpace_parentheses
  rw [compact_cons_of_not_isSpace hopen, compact_append, compact_cons_of_not_isSpace hclose]
  rfl

/-- White space takes no part in matching parentheses. -/
theorem Balanced.compact {text : List Char} (h : Balanced text) : Balanced (Text.compact text) := by
  induction h with
  | nil => exact .nil
  | @plain c rest hopen hclose _ ih =>
      by_cases hc : Text.isSpace c = true
      · rwa [Text.compact_cons_of_isSpace hc]
      · rw [Text.compact_cons_of_not_isSpace (by simpa using hc)]
        exact .plain hopen hclose ih
  | @nest inner rest _ _ ihinner ihrest =>
      have hsplit : '(' :: (inner ++ ')' :: rest) = '(' :: (inner ++ [')']) ++ rest := by simp
      rw [hsplit, Text.compact_append, Text.compact_group, List.cons_append, List.append_assoc]
      exact .nest ihinner ihrest

namespace Dimension

/-- The same dimension, the text of a group without white space. -/
def compact : Dimension → Dimension
  | letter c => letter c
  | group source e => group (String.ofList (Text.compact source.toList)) e

theorem nameLetters_compact (dimension : Dimension) :
    dimension.compact.nameLetters = dimension.nameLetters := by
  cases dimension <;> rfl

theorem WrittenAs.compact {dimension : Dimension} {word : List Char} (h : dimension.WrittenAs word) :
    dimension.compact.WrittenAs (Text.compact word) := by
  cases h with
  | @letter c hletter =>
      rw [Text.compact_cons_of_not_isSpace (Text.isSpace_eq_false_of_isLetter hletter)]
      exact .letter hletter
  | @group inner e hinner he =>
      have hsame := Expr.parse_compact he
      rw [String.toList_ofList, Text.compact_group] at hsame
      rw [Dimension.compact, String.toList_ofList, Text.compact_group]
      exact .group hinner.compact hsame

theorem Spell.compact {dimensions : List Dimension} {text : List Char} (h : Spell dimensions text) :
    Spell (dimensions.map Dimension.compact) (Text.compact text) := by
  induction h with
  | nil => exact .nil
  | cons hword _ ih =>
      rw [List.map_cons, Text.compact_append]
      exact .cons hword.compact ih

end Dimension

namespace TensorFormula

variable {text : String} {formula : TensorFormula}

/-- A formula without its white space. -/
theorem parse_compact (h : parse text = .ok formula) :
    parse (String.ofList (Text.compact text.toList)) =
      .ok ⟨.ofList (formula.dimensions.map Dimension.compact),
        String.ofList (Text.compact text.toList)⟩ := by
  refine parse_eq_ok_iff.2 ⟨rfl, ?_⟩
  rw [String.toList_ofList]
  exact (parse_eq_ok_iff.1 h).2.compact

end TensorFormula

theorem Axes.letters_compact (axes : Axes) :
    (ofList (axes.dimensions.map Dimension.compact)).letters = axes.letters := by
  rw [letters_ofList, axes.letters_eq, List.flatMap_map]
  simp only [Dimension.nameLetters_compact]

/-- The tree of an expression does not depend on white space. It may be taken out anywhere, all of it or
some, and put in between any two tokens, which is wherever no number and no name runs across, and as
often as one likes. So a formula with white space in its groups is read without it as well, with
the same letters and trees. -/
theorem spacing_keeps_every_tree (text : String) :
    (∀ e, Expr.parse text = .ok e →
      (∀ part : String, part.toList.Sublist text.toList →
        Text.compact part.toList = Text.compact text.toList → Expr.parse part = .ok e) ∧
      Expr.parse (String.ofList (Text.compact text.toList)) = .ok e ∧
      (∀ left right, text.toList = left ++ right → (Token.Apart left right ↔
        ∃ ts us, Token.scan left = .ok ts ∧ Token.scan right = .ok us ∧
          Token.scan text.toList = .ok (ts ++ us))) ∧
      ∀ text' : String, Relation.ReflTransGen Token.Respaces text.toList text'.toList →
        Expr.parse text' = .ok e) ∧
    ∀ formula, TensorFormula.parse text = .ok formula →
      ∃ compacted,
        TensorFormula.parse (String.ofList (Text.compact text.toList)) = .ok compacted ∧
        compacted.dimensions = formula.dimensions.map Dimension.compact ∧
        compacted.letters = formula.letters := by
  refine ⟨fun e h => ⟨fun part hsub hcompact => ?_, ?_, fun left right htext => ?_,
    fun text' hrun => ?_⟩, fun formula h => ?_⟩
  · exact Expr.parse_of_sublist h hsub hcompact
  · exact Expr.parse_compact h
  · exact Expr.apart_iff_of_parse h htext
  · exact Expr.parse_of_respaced h hrun
  · exact ⟨_, TensorFormula.parse_compact h, rfl, formula.letters_compact⟩

/-- A call with white space on either side of every token, and a formula with it as a group. -/
theorem spacing_keeps_tree_of_call :
    let e : Expr := .call .max [.int 10, .var "b"]
    let formula : TensorFormula :=
      ⟨.ofList [.letter 'a', .group "(max ( 10 , b ))" e], "a(max ( 10 , b ))"⟩
    Expr.parse "max ( 10 , b )" = .ok e ∧ Expr.parse "max( 10 ,b)" = .ok e ∧
      Expr.parse "max  ( 10 , b )" = .ok e ∧
      TensorFormula.parse "a(max ( 10 , b ))" = .ok formula ∧
      ∃ compacted, TensorFormula.parse "a(max(10,b))" = .ok compacted ∧
        compacted.dimensions = [.letter 'a', .group "(max(10,b))" e] := by
  intro e formula
  have hparse : Expr.parse "max ( 10 , b )" = .ok e := by decide +kernel
  have hformula : TensorFormula.parse "a(max ( 10 , b ))" = .ok formula := by decide +kernel
  obtain ⟨hexpr, -⟩ := spacing_keeps_every_tree "max ( 10 , b )"
  obtain ⟨-, hgroup⟩ := spacing_keeps_every_tree "a(max ( 10 , b ))"
  obtain ⟨hremove, -, -, hrun⟩ := hexpr e hparse
  obtain ⟨compacted, hcompacted, hdimensions, -⟩ := hgroup _ hformula
  have hinsert : Token.Respaces ("max".toList ++ ' ' :: "( 10 , b )".toList)
      ("max".toList ++ ' ' :: ' ' :: "( 10 , b )".toList) :=
    .insert (by decide) (Token.apart_of_isSpace (by decide))
  exact ⟨hparse, hremove _ (by decide +kernel) (by decide +kernel), hrun _ (.single hinsert), hformula,
    compacted, hcompacted, hdimensions⟩

end ShapeAssert
