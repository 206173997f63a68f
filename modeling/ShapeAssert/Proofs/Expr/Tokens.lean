import Mathlib.Data.List.TakeWhile
import ShapeAssert.Proofs.Sequence
import ShapeAssert.Proofs.Text.Classes

/-! How a text is cut into tokens. A text may be cut in two wherever no number and no name runs across
the cut: its tokens are those of the first part and then those of the second, and a fault in the first
part comes before any in the second. -/

namespace ShapeAssert

section Runs

variable {β : Type} {p : β → Bool} {left right : List β}

theorem takeWhile_append_of_stop (h : (∀ b ∈ left, p b = true) → ∀ b ∈ right.head?, p b = false) :
    (left ++ right).takeWhile p = left.takeWhile p := by
  by_cases hall : ∀ b ∈ left, p b = true
  · have hright : right.takeWhile p = [] := by
      cases right with
      | nil => rfl
      | cons b right => exact List.takeWhile_cons_of_neg (by simpa using h hall b rfl)
    rw [List.takeWhile_append_of_pos hall, hright, List.append_nil, List.takeWhile_eq_self_iff.2 hall]
  · rw [List.takeWhile_append, if_neg]
    intro hlength
    exact hall (List.takeWhile_eq_self_iff.1
      ((List.takeWhile_sublist p).eq_of_length hlength))

theorem dropWhile_append_of_stop (h : (∀ b ∈ left, p b = true) → ∀ b ∈ right.head?, p b = false) :
    (left ++ right).dropWhile p = left.dropWhile p ++ right := by
  have hsplit : (left ++ right).takeWhile p ++ (left ++ right).dropWhile p = left ++ right :=
    List.takeWhile_append_dropWhile
  rw [takeWhile_append_of_stop h] at hsplit
  refine List.append_cancel_left (hsplit.trans ?_)
  rw [← List.append_assoc, List.takeWhile_append_dropWhile]

/-- A run that reaches the end of a text ends there if what follows does not go on with it. -/
theorem stop_of_getLast {first : β} (hfirst : p first = true)
    (hlast : ∀ c ∈ (first :: left).getLast?, ∀ d ∈ right.head?, ¬(p c = true ∧ p d = true))
    (hleft : ∀ b ∈ left, p b = true) : ∀ b ∈ right.head?, p b = false := by
  intro d hd
  have hall (b : β) (hb : b ∈ first :: left) : p b = true := by
    rcases List.mem_cons.1 hb with rfl | hb
    · exact hfirst
    · exact hleft b hb
  have hboth := hlast _ (List.getLast?_eq_some_getLast (by simp)) d hd
  simpa [hall _ (List.getLast_mem _)] using hboth

end Runs

namespace Decimal

theorem value_eq_ofDigitChars (run : List Char) : value run = Nat.ofDigitChars 10 run 0 := by
  rw [value, Nat.ofDigitChars_eq_foldl]
  simp only [Nat.mul_comm]

/-- The digits of a number denote it. -/
theorem value_digits (n : Nat) : value (digits n) = n := by
  rw [value_eq_ofDigitChars, digits, Nat.ofDigitChars_ten_toDigits]

theorem isDigit_of_mem_digits {n : Nat} {c : Char} (h : c ∈ digits n) : c.isDigit = true :=
  Nat.isDigit_of_mem_toDigits (by decide) (by decide) h

end Decimal

namespace Token

/-- No number and no name runs across the cut between two texts. -/
def Apart (left right : List Char) : Prop :=
  ∀ c ∈ left.getLast?, ∀ d ∈ right.head?,
    ¬(c.isDigit = true ∧ d.isDigit = true) ∧ ¬(Text.isLetter c = true ∧ Text.isLetter d = true)

variable {c : Char} {left right rest run : List Char}

theorem Apart.of_suffix {part : List Char} (h : Apart left right) (hpart : part <:+ left) :
    Apart part right := by
  intro c hc
  obtain ⟨before, rfl⟩ := hpart
  refine h c ?_
  rw [List.getLast?_append, Option.mem_def.1 hc]
  rfl

theorem apart_of_symbol {token : Token} (hc : symbol? c = some token) : Apart left (c :: rest) := by
  obtain ⟨-, hdigit, hletter⟩ := class_of_symbol hc
  rintro b - d hd
  obtain rfl : c = d := by simpa using hd
  simp [hdigit, hletter]

/-! ### One token -/

theorem scan_space (hc : Text.isSpace c = true) : scan (c :: rest) = scan rest := by
  rw [scan, if_pos hc]

theorem scan_number (hc : c.isDigit = true)
    (hvalue : Decimal.value (c :: rest.takeWhile Char.isDigit) ≤ maxValue) :
    scan (c :: rest) = (scan (rest.dropWhile Char.isDigit)).map
      (int (Decimal.value (c :: rest.takeWhile Char.isDigit)) :: ·) := by
  rw [scan, if_neg (by simp [Text.isSpace_eq_false_of_isDigit hc]), if_pos hc]
  exact if_pos hvalue

theorem scan_number_too_large (hc : c.isDigit = true)
    (hvalue : ¬Decimal.value (c :: rest.takeWhile Char.isDigit) ≤ maxValue) :
    scan (c :: rest) =
      .error (.literalTooLarge (String.ofList (c :: rest.takeWhile Char.isDigit))) := by
  rw [scan, if_neg (by simp [Text.isSpace_eq_false_of_isDigit hc]), if_pos hc]
  exact if_neg hvalue

theorem scan_name (hc : Text.isLetter c = true) :
    scan (c :: rest) = (scan (rest.dropWhile Text.isLetter)).map
      (name (String.ofList (c :: rest.takeWhile Text.isLetter)) :: ·) := by
  rw [scan, if_neg (by simp [Text.isSpace_eq_false_of_isLetter hc]),
    if_neg (by simp [Text.isDigit_eq_false_of_isLetter hc]), if_pos hc]

theorem symbol_leftParen : symbol? '(' = some leftParen := rfl

theorem symbol_rightParen : symbol? ')' = some rightParen := rfl

theorem symbol_comma : symbol? ',' = some comma := rfl

theorem scan_symbol {token : Token} (hc : symbol? c = some token) :
    scan (c :: rest) = (scan rest).map (token :: ·) := by
  obtain ⟨hspace, hdigit, hletter⟩ := class_of_symbol hc
  rw [scan, if_neg (by simp [hspace]), if_neg (by simp [hdigit]), if_neg (by simp [hletter]), hc]

theorem scan_unsupported (hspace : Text.isSpace c = false) (hdigit : c.isDigit = false)
    (hletter : Text.isLetter c = false) (hsymbol : symbol? c = none) :
    scan (c :: rest) = .error (.unsupportedCharacter c) := by
  rw [scan, if_neg (by simp [hspace]), if_neg (by simp [hdigit]), if_neg (by simp [hletter]),
    hsymbol]

/-! ### Two texts -/

/-- The tokens of two texts, the first text judged first. -/
def both (left right : Except SyntaxFault (List Token)) : Except SyntaxFault (List Token) := do
  let ts ← left
  let us ← right
  .ok (ts ++ us)

theorem both_eq_ok {left right : Except SyntaxFault (List Token)} {tokens : List Token} :
    both left right = .ok tokens ↔
      ∃ ts us, left = .ok ts ∧ right = .ok us ∧ tokens = ts ++ us := by
  rw [both, bind_eq_ok]
  constructor
  · rintro ⟨ts, hleft, hrest⟩
    obtain ⟨us, hright, htokens⟩ := bind_eq_ok.1 hrest
    exact ⟨ts, us, hleft, hright, (Except.ok.inj htokens).symm⟩
  · rintro ⟨ts, us, hleft, hright, rfl⟩
    exact ⟨ts, hleft, bind_eq_ok.2 ⟨us, hright, rfl⟩⟩

theorem map_both (token : Token) (first second : Except SyntaxFault (List Token)) :
    both (first.map (token :: ·)) second = (both first second).map (token :: ·) := by
  cases first <;> cases second <;> rfl

/-- Where nothing runs across the cut, a text has the tokens of its two parts. -/
theorem scan_append (h : Apart left right) :
    scan (left ++ right) = both (scan left) (scan right) := by
  fun_induction scan left with
  | case1 =>
      rw [List.nil_append]
      cases scan right <;> rfl
  | case2 c rest hspace ih =>
      rw [List.cons_append, scan_space hspace]
      exact ih (h.of_suffix (List.suffix_cons c rest))
  | case3 c rest hspace hdigit run hvalue ih =>
      have hstop := stop_of_getLast hdigit fun c hc d hd => (h c hc d hd).1
      have hsuffix : rest.dropWhile Char.isDigit <:+ c :: rest :=
        (List.dropWhile_suffix _).trans (List.suffix_cons c rest)
      rw [List.cons_append, scan_number hdigit (by rwa [takeWhile_append_of_stop hstop]),
        takeWhile_append_of_stop hstop, dropWhile_append_of_stop hstop, ih (h.of_suffix hsuffix),
        map_both]
  | case4 c rest hspace hdigit run hvalue =>
      have hstop := stop_of_getLast hdigit fun c hc d hd => (h c hc d hd).1
      rw [List.cons_append, scan_number_too_large hdigit (by rwa [takeWhile_append_of_stop hstop]),
        takeWhile_append_of_stop hstop]
      rfl
  | case5 c rest hspace hdigit hletter run ih =>
      have hstop := stop_of_getLast hletter fun c hc d hd => (h c hc d hd).2
      have hsuffix : rest.dropWhile Text.isLetter <:+ c :: rest :=
        (List.dropWhile_suffix _).trans (List.suffix_cons c rest)
      rw [List.cons_append, scan_name hletter, takeWhile_append_of_stop hstop,
        dropWhile_append_of_stop hstop, ih (h.of_suffix hsuffix), map_both]
  | case6 c rest hspace hdigit hletter token hsymbol ih =>
      rw [List.cons_append, scan_symbol hsymbol, ih (h.of_suffix (List.suffix_cons c rest)),
        map_both]
  | case7 c rest hspace hdigit hletter hsymbol =>
      rw [List.cons_append, scan_unsupported (by simpa using hspace) (by simpa using hdigit)
        (by simpa using hletter) hsymbol]
      rfl

/-- The tokens before a symbol, the symbol, and the tokens after it. -/
theorem scan_append_symbol {token : Token} (hc : symbol? c = some token) :
    scan (left ++ c :: rest) = both (scan left) ((scan rest).map (token :: ·)) := by
  rw [scan_append (apart_of_symbol hc), scan_symbol hc]

/-! ### Whole texts -/

/-- A run of digits is one number, whatever digits it begins with, unless it is too large. -/
theorem scan_run (hne : run ≠ []) (hall : ∀ c ∈ run, c.isDigit = true) :
    scan run = if Decimal.value run ≤ maxValue then .ok [int (Decimal.value run)]
      else .error (.literalTooLarge (String.ofList run)) := by
  obtain ⟨c, rest, rfl⟩ := List.exists_cons_of_ne_nil hne
  obtain ⟨hc, hrest⟩ := List.forall_mem_cons.1 hall
  have hrun : rest.takeWhile Char.isDigit = rest := List.takeWhile_eq_self_iff.2 hrest
  split
  · next hvalue =>
      rw [scan_number hc (by rwa [hrun]), hrun, List.dropWhile_eq_nil_iff.2 hrest, scan]
      rfl
  · next hvalue => rw [scan_number_too_large hc (by rwa [hrun]), hrun]

theorem scan_digits {n : Nat} (hn : n ≤ maxValue) : scan (Decimal.digits n) = .ok [int n] := by
  have hne : Decimal.digits n ≠ [] := Nat.toDigits_ne_nil
  rw [scan_run hne fun c hc => Decimal.isDigit_of_mem_digits hc, Decimal.value_digits, if_pos hn]

theorem scan_letters {letters : String} (hne : letters.toList ≠ [])
    (hall : ∀ c ∈ letters.toList, Text.isLetter c = true) :
    scan letters.toList = .ok [name letters] := by
  cases hletters : letters.toList with
  | nil => exact absurd hletters hne
  | cons c rest =>
      rw [hletters] at hall
      obtain ⟨hc, hrest⟩ := List.forall_mem_cons.1 hall
      rw [scan_name hc, List.takeWhile_eq_self_iff.2 hrest, List.dropWhile_eq_nil_iff.2 hrest, scan,
        ← hletters, String.ofList_toList]
      rfl

/-! ### What tokens are made of -/

/-- Numbers are values and names are made of letters. -/
def WellFormed : Token → Prop
  | int n => n ≤ maxValue
  | name letters => letters.toList ≠ [] ∧ ∀ c ∈ letters.toList, Text.isLetter c = true
  | _ => True

theorem wellFormed_of_symbol {token : Token} (hc : symbol? c = some token) : token.WellFormed := by
  unfold symbol? at hc
  split at hc
  all_goals first
    | exact Option.some.inj hc ▸ trivial
    | cases hc

theorem wellFormed_of_scan {text : List Char} {tokens : List Token} (h : scan text = .ok tokens) :
    ∀ token ∈ tokens, token.WellFormed := by
  fun_induction scan text generalizing tokens with
  | case1 => simp_all
  | case2 c rest hspace ih => exact ih h
  | case3 c rest hspace hdigit run hvalue =>
      rename_i ih
      obtain ⟨others, hothers, rfl⟩ := map_eq_ok.1 h
      exact List.forall_mem_cons.2 ⟨hvalue, ih hothers⟩
  | case4 => cases h
  | case5 c rest hspace hdigit hletter run =>
      rename_i ih
      obtain ⟨others, hothers, rfl⟩ := map_eq_ok.1 h
      have hrun (d : Char) (hd : d ∈ run) : Text.isLetter d = true := by
        rcases List.mem_cons.1 hd with rfl | hd
        · exact hletter
        · exact List.mem_takeWhile_imp hd
      refine List.forall_mem_cons.2 ⟨⟨?_, ?_⟩, ih hothers⟩
      · simp [run]
      · rwa [String.toList_ofList]
  | case6 c rest hspace hdigit hletter token hsymbol ih =>
      obtain ⟨others, hothers, rfl⟩ := map_eq_ok.1 h
      exact List.forall_mem_cons.2 ⟨wellFormed_of_symbol hsymbol, ih hothers⟩
  | case7 => cases h

/-- Only white space, digits, letters and symbols can be cut into tokens. -/
theorem class_of_scan {text : List Char} {tokens : List Token} (h : scan text = .ok tokens) :
    ∀ c ∈ text, Text.isSpace c = true ∨ c.isDigit = true ∨ Text.isLetter c = true ∨
      (symbol? c).isSome = true := by
  intro c hc
  obtain ⟨before, after, rfl⟩ := List.append_of_mem hc
  by_contra hclass
  simp only [not_or, Bool.not_eq_true, Option.isSome_eq_false_iff, Option.isNone_iff_eq_none]
    at hclass
  obtain ⟨hspace, hdigit, hletter, hsymbol⟩ := hclass
  have hapart : Apart before (c :: after) := by
    rintro b - d hd
    obtain rfl : c = d := by simpa using hd
    simp [hdigit, hletter]
  rw [scan_append hapart, scan_unsupported hspace hdigit hletter hsymbol] at h
  cases hbefore : scan before <;> rw [hbefore] at h <;> cases h

end Token

end ShapeAssert
