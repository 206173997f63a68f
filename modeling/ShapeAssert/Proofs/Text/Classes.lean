import ShapeAssert.Expr.Token

/-! The classes of characters that matter in an expression are apart: no character is at once two of
white space, a decimal digit, a letter and one of the symbols that are tokens by themselves. -/

namespace ShapeAssert

namespace Text

/-- Tables of which no two ranges meet have no code point in common. -/
theorem RangeTable.contains_eq_false_of_apart {left right : RangeTable}
    (hleft : IncreasingFrom 0 left) (hright : IncreasingFrom 0 right)
    (hapart : ∀ l ∈ left, ∀ r ∈ right, l.2 < r.1 ∨ r.2 < l.1) {code : Nat}
    (h : left.contains code = true) : right.contains code = false := by
  refine Bool.eq_false_iff.2 fun hcode => ?_
  obtain ⟨l, hl, hlow, hhigh⟩ := (contains_iff hleft).1 h
  obtain ⟨r, hr, hlow', hhigh'⟩ := (contains_iff hright).1 hcode
  have := hapart l hl r hr
  omega

theorem increasing_alphabeticTable : RangeTable.IncreasingFrom 0 alphabeticTable := by
  decide +kernel

theorem increasing_whiteSpaceTable : RangeTable.IncreasingFrom 0 whiteSpaceTable := by
  decide

/-- The digits as a table of one range. -/
private def digitTable : RangeTable := [('0'.toNat, '9'.toNat)]

private theorem increasing_digitTable : RangeTable.IncreasingFrom 0 digitTable := by
  decide

private theorem digitTable_contains {c : Char} : digitTable.contains c.toNat = c.isDigit := by
  simp [digitTable, RangeTable.contains, Char.isDigit, UInt32.le_iff_toNat_le]

theorem isSpace_eq_false_of_isLetter {c : Char} (h : isLetter c = true) : isSpace c = false :=
  RangeTable.contains_eq_false_of_apart increasing_alphabeticTable increasing_whiteSpaceTable
    (by decide +kernel) h

theorem isDigit_eq_false_of_isLetter {c : Char} (h : isLetter c = true) : c.isDigit = false :=
  have hcontains : digitTable.contains c.toNat = false :=
    RangeTable.contains_eq_false_of_apart increasing_alphabeticTable increasing_digitTable
      (by decide +kernel) h
  digitTable_contains.symm.trans hcontains

theorem isSpace_eq_false_of_isDigit {c : Char} (h : c.isDigit = true) : isSpace c = false :=
  have hcontains : digitTable.contains c.toNat = true := digitTable_contains.trans h
  RangeTable.contains_eq_false_of_apart increasing_digitTable increasing_whiteSpaceTable
    (by decide +kernel) hcontains

/-- White space is no part of a number or a name. -/
theorem isSpace_eq_false_of_run {c : Char} (h : c.isDigit = true ∨ isLetter c = true) :
    isSpace c = false :=
  h.elim isSpace_eq_false_of_isDigit isSpace_eq_false_of_isLetter

end Text

/-- A symbol is neither white space nor part of a number or a name. -/
theorem Token.class_of_symbol {c : Char} {token : Token} (h : symbol? c = some token) :
    Text.isSpace c = false ∧ c.isDigit = false ∧ Text.isLetter c = false := by
  unfold symbol? at h
  split at h
  all_goals first
    | decide +kernel
    | cases h

end ShapeAssert
