/-! Character classes given by ranges of code points. A table lists inclusive ranges in increasing
order, so a search ends at the first range above the code point. -/

namespace ShapeAssert.Text

/-- Inclusive ranges of code points, in increasing order. -/
abbrev RangeTable := List (Nat × Nat)

namespace RangeTable

/-- Searches the ranges from the lowest and stops once they lie above the code point. -/
def contains : RangeTable → Nat → Bool
  | [], _ => false
  | (low, high) :: rest, code => decide (low ≤ code) && (decide (code ≤ high) || contains rest code)

/-- No range begins below the floor, none is empty, and each lies above the one before it. -/
def IncreasingFrom : (floor : Nat) → RangeTable → Prop
  | _, [] => True
  | floor, (low, high) :: rest => floor ≤ low ∧ low ≤ high ∧ IncreasingFrom (high + 1) rest

instance decidableIncreasingFrom : (floor : Nat) → (table : RangeTable) →
    Decidable (IncreasingFrom floor table)
  | _, [] => inferInstanceAs (Decidable True)
  | floor, (low, high) :: rest =>
      have := decidableIncreasingFrom (high + 1) rest
      inferInstanceAs (Decidable (floor ≤ low ∧ low ≤ high ∧ IncreasingFrom (high + 1) rest))

theorem IncreasingFrom.le {floor : Nat} {table : RangeTable} (h : IncreasingFrom floor table) :
    ∀ range ∈ table, floor ≤ range.1 := by
  induction table generalizing floor with
  | nil => exact fun _ hrange => nomatch hrange
  | cons head rest ih =>
      obtain ⟨hfloor, hrange, hrest⟩ := h
      refine List.forall_mem_cons.2 ⟨hfloor, fun range hmem => ?_⟩
      have habove := ih hrest range hmem
      omega

/-- The search finds a code point exactly if it is in a range: what lies behind the end of the search
lies above the code point. -/
theorem contains_iff {floor : Nat} {table : RangeTable} (h : IncreasingFrom floor table) {code : Nat} :
    table.contains code = true ↔ ∃ range ∈ table, range.1 ≤ code ∧ code ≤ range.2 := by
  induction table generalizing floor with
  | nil => simp [contains]
  | cons head rest ih =>
      obtain ⟨low, high⟩ := head
      obtain ⟨-, hrange, hrest⟩ := h
      simp only [contains, Bool.and_eq_true, Bool.or_eq_true, decide_eq_true_eq, ih hrest,
        List.mem_cons, exists_eq_or_imp]
      constructor
      · rintro ⟨hlow, hhigh | hfound⟩
        · exact .inl ⟨hlow, hhigh⟩
        · exact .inr hfound
      · rintro (⟨hlow, hhigh⟩ | ⟨range, hmem, hlow, hhigh⟩)
        · exact ⟨hlow, .inl hhigh⟩
        · have habove := hrest.le range hmem
          exact ⟨by omega, .inr ⟨range, hmem, hlow, hhigh⟩⟩

end RangeTable

end ShapeAssert.Text
