import ShapeAssert.Text.RangeTable

/-! White space: code points with the Unicode property White_Space, and its removal. The zero-width
space and the byte order mark are not among them. -/

namespace ShapeAssert.Text

/-- The ranges of the property White_Space. -/
def whiteSpaceTable : RangeTable := [
  (0x9, 0xd), (0x20, 0x20), (0x85, 0x85), (0xa0, 0xa0), (0x1680, 0x1680), (0x2000, 0x200a),
  (0x2028, 0x2029), (0x202f, 0x202f), (0x205f, 0x205f), (0x3000, 0x3000)]

def isSpace (c : Char) : Bool :=
  whiteSpaceTable.contains c.toNat

/-- The characters without the white space anywhere among them. -/
def compact (text : List Char) : List Char :=
  text.filter (!isSpace ·)

/-- The characters without white space at either end. -/
def trim (text : List Char) : List Char :=
  (text.dropWhile isSpace).reverse.dropWhile isSpace |>.reverse

theorem not_isSpace_of_mem_compact {text : List Char} {c : Char} (h : c ∈ compact text) :
    isSpace c = false := by
  simpa using (List.mem_filter.1 h).2

theorem compact_cons_of_isSpace {c : Char} (h : isSpace c = true) (text : List Char) :
    compact (c :: text) = compact text :=
  List.filter_cons_of_neg (by simp [h])

theorem compact_cons_of_not_isSpace {c : Char} (h : isSpace c = false) (text : List Char) :
    compact (c :: text) = c :: compact text :=
  List.filter_cons_of_pos (by simp [h])

theorem compact_sublist {part text : List Char} (h : part.Sublist text) :
    (compact part).Sublist (compact text) :=
  h.filter _

/-- Text with white space removed has none left in any part of it. -/
theorem compact_of_sublist {part text : List Char} (h : part.Sublist (compact text)) :
    compact part = part :=
  List.filter_eq_self.2 fun _ hc => by simp [not_isSpace_of_mem_compact (h.subset hc)]

theorem compact_compact {text : List Char} : compact (compact text) = compact text :=
  compact_of_sublist (List.Sublist.refl _)

theorem compact_append (left right : List Char) :
    compact (left ++ right) = compact left ++ compact right :=
  List.filter_append ..

end ShapeAssert.Text
