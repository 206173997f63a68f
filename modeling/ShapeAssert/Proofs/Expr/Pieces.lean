import Mathlib.Data.List.DropRight
import Mathlib.Data.Nat.Digits.Defs
import ShapeAssert.Proofs.Expr.Spacing

/-! Tokens of texts put together. White space keeps the tokens of two texts apart, and without it they
stay apart unless a number or a name runs on from the first text into the second, which makes one token
of two. So a list of tokens can be written with single spaces, and the digits of a number denote it
however many zeros come first. -/

namespace ShapeAssert

/-! ### The number of a run of digits -/

namespace Decimal

/-- The number a digit stands for. -/
def digitValue (c : Char) : Nat := c.toNat - '0'.toNat

/-- A run of digits denotes the sum of its digits, each times the power of ten for its place. -/
theorem value_eq_ofDigits (run : List Char) :
    value run = Nat.ofDigits 10 (run.reverse.map digitValue) := by
  induction run using List.reverseRecOn with
  | nil => rfl
  | append_singleton run c ih =>
      have hstep : value (run ++ [c]) = value run * 10 + digitValue c := by
        rw [value, List.foldl_append]
        rfl
      rw [hstep, ih, List.reverse_append, List.reverse_singleton, List.singleton_append, List.map_cons,
        Nat.ofDigits_cons]
      omega

theorem value_zeros_append (zeros : Nat) (run : List Char) :
    value (List.replicate zeros '0' ++ run) = value run := by
  rw [value_eq_ofDigits, value_eq_ofDigits, List.reverse_append, List.map_append, List.reverse_replicate,
    List.map_replicate]
  exact Nat.ofDigits_append_replicate_zero _

end Decimal

namespace Token

/-- Cuts a text into tokens. A fault is reported with the whole text. -/
def read (text : String) : Except Error (List Token) :=
  (scan text.toList).mapError (.invalidExpression text)

variable {c d : Char} {left between right run : List Char} {ts us tokens : List Token}

theorem both_ok (ts : List Token) (second : Except SyntaxFault (List Token)) :
    both (.ok ts) second = second.map (ts ++ ·) := by
  cases second <;> rfl

/-! ### White space between two texts -/

theorem scan_spaces_append (h : ∀ c ∈ between, Text.isSpace c = true) :
    scan (between ++ right) = scan right := by
  induction between with
  | nil => rfl
  | cons c rest ih =>
      obtain ⟨hc, hrest⟩ := List.forall_mem_cons.1 h
      rw [List.cons_append, scan_space hc, ih hrest]

/-- With white space between them, or where nothing runs across the cut, two texts have the tokens of
the one and then those of the other. -/
theorem scan_append_between (hbetween : ∀ c ∈ between, Text.isSpace c = true)
    (hcut : between ≠ [] ∨ Apart left right) :
    scan (left ++ between ++ right) = both (scan left) (scan right) := by
  cases between with
  | nil =>
      rw [List.append_nil]
      exact scan_append (hcut.resolve_left fun hne => hne rfl)
  | cons c rest =>
      obtain ⟨hc, hrest⟩ := List.forall_mem_cons.1 hbetween
      rw [List.append_assoc, List.cons_append, scan_around_space hc, scan_spaces_append hrest]

/-! ### A run across the cut -/

/-- The two classes of characters of which tokens are runs. -/
def IsRunClass (p : Char → Bool) : Prop :=
  p = Char.isDigit ∨ p = Text.isLetter

theorem exists_run_class_of_not_apart (h : ¬Apart left right) :
    ∃ p, IsRunClass p ∧ (∃ c ∈ left.getLast?, p c = true) ∧ ∃ d ∈ right.head?, p d = true := by
  simp only [Apart, not_forall, not_and_or, not_or, not_not] at h
  obtain ⟨c, hc, d, hd, ⟨hcd, hdd⟩ | ⟨hcl, hdl⟩⟩ := h
  · exact ⟨Char.isDigit, .inl rfl, ⟨c, hc, hcd⟩, d, hd, hdd⟩
  · exact ⟨Text.isLetter, .inr rfl, ⟨c, hc, hcl⟩, d, hd, hdl⟩

section

variable {p : Char → Bool} (hp : IsRunClass p)
include hp

/-- A text that begins with a character of the class begins with one token for the whole run of them. -/
theorem exists_token_of_run {rest : List Char} (hc : p c = true) (h : scan (c :: rest) = .ok tokens) :
    ∃ token others, tokens = token :: others ∧ scan (rest.dropWhile p) = .ok others := by
  rcases hp with rfl | rfl
  · by_cases hvalue : Decimal.value (c :: rest.takeWhile Char.isDigit) ≤ maxValue
    · rw [scan_number hc hvalue] at h
      obtain ⟨others, hothers, rfl⟩ := map_eq_ok.1 h
      exact ⟨_, others, rfl, hothers⟩
    · rw [scan_number_too_large hc hvalue] at h
      cases h
  · rw [scan_name hc] at h
    obtain ⟨others, hothers, rfl⟩ := map_eq_ok.1 h
    exact ⟨_, others, rfl, hothers⟩

/-- Characters of one class only are characters of no other. -/
theorem apart_of_run (hleft : ∀ b ∈ left.getLast?, p b = false) (hright : ∀ d ∈ right.head?, p d = true) :
    Apart left right := by
  intro b hb d hd
  have hb' := hleft b hb
  have hd' := hright d hd
  rcases hp with rfl | rfl
  · have hletter : Text.isLetter d = false := by
      by_contra hletter
      rw [Text.isDigit_eq_false_of_isLetter (by simpa using hletter)] at hd'
      cases hd'
    simp [hb', hletter]
  · have hdigit : d.isDigit = false := Text.isDigit_eq_false_of_isLetter hd'
    simp [hb', hdigit]

/-- A text that ends in a character of the class ends in a run of them. -/
theorem exists_last_run (hlast : ∃ c ∈ left.getLast?, p c = true) :
    ∃ before first run, left = before ++ first :: run ∧ p first = true ∧ (∀ b ∈ run, p b = true) ∧
      Apart before (first :: run) := by
  obtain ⟨c, hlast, hc⟩ := hlast
  have hsplit : left.rdropWhile p ++ left.rtakeWhile p = left := List.rdropWhile_append_rtakeWhile
  have hall (b : Char) (hb : b ∈ left.rtakeWhile p) : p b = true := List.mem_rtakeWhile_imp hb
  have hstop : ∀ b ∈ (left.rdropWhile p).getLast?, p b = false := by
    intro b hb
    obtain ⟨hne, rfl⟩ := List.mem_getLast?_eq_getLast hb
    simpa using List.rdropWhile_last_not p left hne
  cases hrun : left.rtakeWhile p with
  | nil =>
      obtain ⟨hne, rfl⟩ := List.mem_getLast?_eq_getLast hlast
      exact absurd hc (List.rtakeWhile_eq_nil_iff.1 hrun hne)
  | cons first run =>
      rw [hrun] at hsplit hall
      obtain ⟨hfirst, hrest⟩ := List.forall_mem_cons.1 hall
      refine ⟨_, first, run, hsplit.symm, hfirst, hrest, apart_of_run hp hstop ?_⟩
      intro d hd
      obtain rfl : first = d := Option.some.inj hd
      exact hfirst

/-- A run that goes on across the cut is one token of the whole text but one of either part. -/
theorem length_of_run_across (hlast : ∃ c ∈ left.getLast?, p c = true)
    (hhead : ∃ d ∈ right.head?, p d = true) (hleft : scan left = .ok ts) (hright : scan right = .ok us)
    (h : scan (left ++ right) = .ok tokens) : tokens.length + 1 = ts.length + us.length := by
  obtain ⟨before, first, run, rfl, hfirst, hrun, hapart⟩ := exists_last_run hp hlast
  obtain ⟨d, hd, hdclass⟩ := hhead
  obtain ⟨rest, rfl⟩ := List.head?_eq_some_iff.1 hd
  have hapart' : Apart before (first :: (run ++ d :: rest)) := hapart
  rw [scan_append hapart] at hleft
  rw [List.append_assoc, List.cons_append, scan_append hapart'] at h
  obtain ⟨bs, rs, hbefore, hlastRun, rfl⟩ := both_eq_ok.1 hleft
  obtain ⟨bs', ws, hbefore', hwhole, rfl⟩ := both_eq_ok.1 h
  obtain rfl : bs = bs' := Except.ok.inj (hbefore.symm.trans hbefore')
  -- the run by itself, the run with what it runs on into, and that by itself
  obtain ⟨token, others, rfl, hothers⟩ := exists_token_of_run hp hfirst hlastRun
  obtain ⟨token', others', rfl, hothers'⟩ := exists_token_of_run hp hfirst hwhole
  obtain ⟨token'', others'', rfl, hothers''⟩ := exists_token_of_run hp hdclass hright
  have hnone : run.dropWhile p = [] := List.dropWhile_eq_nil_iff.2 hrun
  have hsame : (run ++ d :: rest).dropWhile p = rest.dropWhile p := by
    rw [List.dropWhile_append_of_pos hrun, List.dropWhile_cons_of_pos hdclass]
  rw [hnone, scan] at hothers
  rw [hsame, hothers''] at hothers'
  obtain rfl := Except.ok.inj hothers
  obtain rfl := Except.ok.inj hothers'
  simp only [List.length_append, List.length_cons, List.length_nil]
  omega

end

/-! ### Tokens with spaces between them -/

theorem exists_symbol {token : Token} (h : token.isRun = false) :
    ∃ c, token.text.toList = [c] ∧ symbol? c = some token := by
  cases token with
  | int n => cases h
  | name letters => cases h
  | plus => exact ⟨'+', rfl, rfl⟩
  | minus => exact ⟨'-', rfl, rfl⟩
  | star => exact ⟨'*', rfl, rfl⟩
  | leftParen => exact ⟨'(', rfl, rfl⟩
  | rightParen => exact ⟨')', rfl, rfl⟩
  | comma => exact ⟨',', rfl, rfl⟩

theorem scan_text {token : Token} (h : token.WellFormed) : scan token.text.toList = .ok [token] := by
  cases hrun : token.isRun with
  | false =>
      obtain ⟨c, htext, hsymbol⟩ := exists_symbol hrun
      rw [htext, scan_symbol hsymbol, scan]
      rfl
  | true =>
      cases token with
      | int n => exact (congrArg scan String.toList_ofList).trans (scan_digits h)
      | name letters => exact scan_letters h.1 h.2
      | _ => cases hrun

/-- Tokens are read back from their texts with spaces between them. -/
theorem scan_spaced (h : ∀ token ∈ tokens, token.WellFormed) :
    scan ([' '].intercalate (tokens.map (·.text.toList))) = .ok tokens := by
  induction tokens with
  | nil => rw [List.map_nil, List.intercalate_nil, scan]
  | cons token tokens ih =>
      obtain ⟨htoken, htokens⟩ := List.forall_mem_cons.1 h
      cases tokens with
      | nil =>
          rw [List.map_singleton, List.intercalate_singleton]
          exact scan_text htoken
      | cons next tokens =>
          have hspace : Text.isSpace ' ' = true := by decide
          have hothers := ih htokens
          rw [List.map_cons] at hothers
          rw [List.map_cons, List.map_cons, List.intercalate_cons_cons, List.append_assoc,
            List.singleton_append, scan_around_space hspace, scan_text htoken, hothers]
          rfl

/-! ### Whole texts -/

theorem read_eq_ok {text : String} : read text = .ok tokens ↔ scan text.toList = .ok tokens :=
  mapError_eq_ok

theorem read_eq_error {text : String} {e : Error} :
    read text = .error e ↔ ∃ fault, scan text.toList = .error fault ∧ .invalidExpression text fault = e :=
  mapError_eq_error

theorem read_run (hne : run ≠ []) (hall : ∀ c ∈ run, c.isDigit = true) :
    read (String.ofList run) =
      if Decimal.value run ≤ maxValue then .ok [int (Decimal.value run)]
      else .error (.invalidExpression (String.ofList run) (.literalTooLarge (String.ofList run))) := by
  rw [read, String.toList_ofList, scan_run hne hall]
  split <;> rfl

end Token

theorem Expr.parse_of_read_error {text : String} {e : Error} (h : Token.read text = .error e) :
    parse text = .error e := by
  obtain ⟨fault, hscan, rfl⟩ := Token.read_eq_error.1 h
  rw [parse, ofChars, hscan]
  rfl

namespace Token

/-- The tokens of two texts put together. With white space between them, or where nothing runs across
the cut, they are those of the first text and then those of the second, and what is wrong with the
second is wrong with the whole. A run of digits or letters that goes on across the cut is one token
instead of two. Tokens are read back from their texts with spaces between them. A run of digits is
the number it denotes, whatever zeros come first, or too large. What cannot be cut into tokens is no
expression, for the same reason. -/
theorem read_composes :
    (∀ left between right tokens, read left = .ok tokens →
      (∀ c ∈ between.toList, Text.isSpace c = true) →
      between ≠ "" ∨ Apart left.toList right.toList →
      (∀ others, read right = .ok others →
        read (left ++ between ++ right) = .ok (tokens ++ others)) ∧
      ∀ e, read right = .error e → ∃ fault, e = .invalidExpression right fault ∧
        read (left ++ between ++ right) =
          .error (.invalidExpression (left ++ between ++ right) fault)) ∧
    (∀ left right tokens others whole, read left = .ok tokens → read right = .ok others →
      ¬Apart left.toList right.toList → read (left ++ right) = .ok whole →
      whole.length + 1 = tokens.length + others.length) ∧
    (∀ tokens : List Token, (∀ token ∈ tokens, token.WellFormed) →
      read (" ".intercalate (tokens.map text)) = .ok tokens) ∧
    (∀ run : List Char, run ≠ [] → (∀ c ∈ run, c.isDigit = true) →
      let n : Nat := Nat.ofDigits 10 (run.reverse.map Decimal.digitValue)
      read (String.ofList run) = if n ≤ maxValue then .ok [int n]
        else .error (.invalidExpression (String.ofList run) (.literalTooLarge (String.ofList run)))) ∧
    (∀ zeros n : Nat,
      let text := String.ofList (List.replicate zeros '0' ++ Decimal.digits n)
      read text = if n ≤ maxValue then .ok [int n]
        else .error (.invalidExpression text (.literalTooLarge text))) ∧
    ∀ text e, read text = .error e → Expr.parse text = .error e := by
  refine ⟨fun left between right tokens hleft hbetween hcut => ?_,
    fun left right tokens others whole hleft hright hcut hwhole => ?_, fun tokens htokens => ?_,
    fun run hne hall => ?_, fun zeros n => ?_, fun text e => Expr.parse_of_read_error⟩
  · have hcut' : between.toList ≠ [] ∨ Apart left.toList right.toList := by
      simpa using hcut
    have hscan : scan (left ++ between ++ right).toList = (scan right.toList).map (tokens ++ ·) := by
      rw [String.toList_append, String.toList_append, scan_append_between hbetween hcut',
        read_eq_ok.1 hleft, both_ok]
    refine ⟨fun others hright => read_eq_ok.2 ?_, fun e he => ?_⟩
    · rw [hscan, read_eq_ok.1 hright]
      rfl
    · obtain ⟨fault, hfault, rfl⟩ := read_eq_error.1 he
      refine ⟨fault, rfl, read_eq_error.2 ⟨fault, ?_, rfl⟩⟩
      rw [hscan, hfault]
      rfl
  · obtain ⟨p, hp, hlast, hhead⟩ := exists_run_class_of_not_apart hcut
    rw [read_eq_ok, String.toList_append] at hwhole
    exact length_of_run_across hp hlast hhead (read_eq_ok.1 hleft) (read_eq_ok.1 hright) hwhole
  · rw [read_eq_ok, String.toList_intercalate, List.map_map]
    exact scan_spaced htokens
  · rw [← Decimal.value_eq_ofDigits]
    exact read_run hne hall
  · intro text
    have hne : List.replicate zeros '0' ++ Decimal.digits n ≠ [] :=
      List.append_ne_nil_of_right_ne_nil _ Nat.toDigits_ne_nil
    have hall : ∀ c ∈ List.replicate zeros '0' ++ Decimal.digits n, c.isDigit = true := by
      intro c hc
      rcases List.mem_append.1 hc with hzero | hdigit
      · rw [List.eq_of_mem_replicate hzero]
        rfl
      · exact Decimal.isDigit_of_mem_digits hdigit
    have hrun := read_run hne hall
    rwa [Decimal.value_zeros_append, Decimal.value_digits] at hrun

/-- A symbol is read behind a name it touches, and a name behind one it does not touch. -/
theorem read_composes_name_and_symbol :
    read "n" = .ok [name "n"] ∧ read "*" = .ok [star] ∧
      read ("n" ++ "" ++ "*") = .ok [name "n", star] ∧
      read ("n" ++ " " ++ "n") = .ok [name "n", name "n"] := by
  have hname : read "n" = .ok [name "n"] :=
    read_eq_ok.2 (scan_letters (by simp) (by simp; decide +kernel))
  have hsymbol : read "*" = .ok [star] := by
    refine read_eq_ok.2 ((scan_symbol rfl).trans ?_)
    rw [scan]
    rfl
  have hspace : ∀ c ∈ " ".toList, Text.isSpace c = true := by
    intro c hc
    obtain rfl : c = ' ' := by simpa using hc
    decide
  have hapart : Apart "n".toList "*".toList := apart_of_symbol (c := '*') rfl
  exact ⟨hname, hsymbol,
    (read_composes.1 "n" "" "*" _ hname (by simp) (.inr hapart)).1 _ hsymbol,
    (read_composes.1 "n" " " "n" _ hname hspace (.inl (by simp))).1 _ hname⟩

end Token

end ShapeAssert
