import Mathlib.Logic.Relation
import ShapeAssert.Proofs.Expr.Neighbours

/-! White space in the text of an expression. No number or name of an expression stands next to another
one, so white space is never what keeps two of them apart: it may be taken out anywhere, and put in
between any two tokens, and the tokens stay the same. -/

namespace ShapeAssert

namespace Token

/-- The tokens that are runs of characters. -/
def isRun : Token → Bool
  | int _ | name _ => true
  | _ => false

theorem not_adjoin_runs {a b : Token} (ha : a.isRun = true) (hb : b.isRun = true) : ¬Adjoin a b := by
  rintro (⟨hends, -⟩ | ⟨-, hseparates⟩ | _ | _)
  · cases a <;> simp_all [isRun, endsOperand]
  · cases b <;> simp_all [isRun, separates]
  · cases hb
  · cases hb

theorem apart_of_isSpace {left right : List Char} {c : Char} (hc : Text.isSpace c = true) :
    Apart left (c :: right) := by
  intro b _ d hd
  obtain rfl : c = d := Option.some.inj hd
  have hrun : ¬(c.isDigit = true ∨ Text.isLetter c = true) := by
    intro hrun
    rw [Text.isSpace_eq_false_of_run hrun] at hc
    cases hc
  exact ⟨fun hdigits => hrun (.inl hdigits.2), fun hletters => hrun (.inr hletters.2)⟩

/-- White space anywhere separates the tokens before it from those after it. -/
theorem scan_around_space {left right : List Char} {c : Char} (hc : Text.isSpace c = true) :
    scan (left ++ c :: right) = both (scan left) (scan right) := by
  rw [scan_append (apart_of_isSpace hc), scan_space hc]

section Runs

variable {text : List Char} {tokens : List Token} {c : Char}

/-- A text that begins with a digit or a letter begins with a number or a name. -/
theorem isRun_head_of_scan (h : scan text = .ok tokens) (hfirst : c ∈ text.head?)
    (hc : c.isDigit = true ∨ Text.isLetter c = true) : ∃ token ∈ tokens.head?, token.isRun = true := by
  obtain ⟨rest, rfl⟩ := List.head?_eq_some_iff.1 hfirst
  rcases hc with hdigit | hletter
  · by_cases hvalue : Decimal.value (c :: rest.takeWhile Char.isDigit) ≤ maxValue
    · rw [scan_number hdigit hvalue] at h
      obtain ⟨others, -, rfl⟩ := map_eq_ok.1 h
      exact ⟨_, rfl, rfl⟩
    · rw [scan_number_too_large hdigit hvalue] at h
      cases h
  · rw [scan_name hletter] at h
    obtain ⟨others, -, rfl⟩ := map_eq_ok.1 h
    exact ⟨_, rfl, rfl⟩

/-- What follows a number or a name has the last token, unless nothing follows. -/
theorem isRun_last_cons {part : List Char} {token : Token} (hpart : part <:+ text)
    (hscan : scan part = .ok tokens) (hrun : token.isRun = true) (hlast : c ∈ text.getLast?)
    (hrest : c ∈ part.getLast? → ∃ last ∈ tokens.getLast?, last.isRun = true) :
    ∃ last ∈ (token :: tokens).getLast?, last.isRun = true := by
  cases part with
  | nil =>
      rw [scan] at hscan
      obtain rfl := Except.ok.inj hscan
      exact ⟨token, rfl, hrun⟩
  | cons d part =>
      obtain ⟨before, rfl⟩ := hpart
      rw [List.getLast?_append_of_ne_nil _ (List.cons_ne_nil d part)] at hlast
      obtain ⟨last, hmem, hlastRun⟩ := hrest hlast
      exact ⟨last, List.mem_getLast?_cons hmem, hlastRun⟩

/-- A text that ends in a digit or a letter ends in a number or a name. -/
theorem isRun_last_of_scan (h : scan text = .ok tokens) (hlast : c ∈ text.getLast?)
    (hc : c.isDigit = true ∨ Text.isLetter c = true) :
    ∃ last ∈ tokens.getLast?, last.isRun = true := by
  fun_induction scan text generalizing tokens with
  | case1 => cases hlast
  | case2 d rest hspace ih =>
      cases rest with
      | nil =>
          obtain rfl : d = c := Option.some.inj hlast
          rw [Text.isSpace_eq_false_of_run hc] at hspace
          cases hspace
      | cons next rest => exact ih h (List.getLast?_cons_cons ▸ hlast)
  | case3 d rest hspace hdigit run hvalue =>
      rename_i ih
      obtain ⟨others, hothers, rfl⟩ := map_eq_ok.1 h
      have hsuffix := (List.dropWhile_suffix Char.isDigit).trans (List.suffix_cons d rest)
      exact isRun_last_cons hsuffix hothers rfl hlast (ih hothers)
  | case4 => cases h
  | case5 d rest hspace hdigit hletter run =>
      rename_i ih
      obtain ⟨others, hothers, rfl⟩ := map_eq_ok.1 h
      have hsuffix := (List.dropWhile_suffix Text.isLetter).trans (List.suffix_cons d rest)
      exact isRun_last_cons hsuffix hothers rfl hlast (ih hothers)
  | case6 d rest hspace hdigit hletter token hsymbol ih =>
      obtain ⟨others, hothers, rfl⟩ := map_eq_ok.1 h
      cases rest with
      | nil =>
          obtain rfl : d = c := Option.some.inj hlast
          exact absurd hc (not_or.2 ⟨hdigit, hletter⟩)
      | cons next rest =>
          obtain ⟨last, hmem, hrun⟩ := ih hothers (List.getLast?_cons_cons ▸ hlast)
          exact ⟨last, List.mem_getLast?_cons hmem, hrun⟩
  | case7 => cases h

end Runs

variable {left right text text' : List Char} {ts us tokens : List Token}

/-- Between the tokens of an expression a text can only be cut where no number and no name runs across
the cut. -/
theorem apart_of_chain (hleft : scan left = .ok ts) (hright : scan right = .ok us)
    (hchain : (ts ++ us).IsChain Adjoin) : Apart left right := by
  intro c hc d hd
  have hnever (hc' : c.isDigit = true ∨ Text.isLetter c = true)
      (hd' : d.isDigit = true ∨ Text.isLetter d = true) : False := by
    obtain ⟨a, ha, hrun⟩ := isRun_last_of_scan hleft hc hc'
    obtain ⟨b, hb, hrun'⟩ := isRun_head_of_scan hright hd hd'
    exact not_adjoin_runs hrun hrun' ((List.isChain_append.1 hchain).2.2 a ha b hb)
  exact ⟨fun ⟨hcd, hdd⟩ => hnever (.inl hcd) (.inl hdd),
    fun ⟨hcl, hdl⟩ => hnever (.inr hcl) (.inr hdl)⟩

/-- A change of white space: a character of it is taken out, or put in where it cuts no number and no
name in two. -/
inductive Respaces : List Char → List Char → Prop where
  | remove {left right : List Char} {c : Char} :
      Text.isSpace c = true → Respaces (left ++ c :: right) (left ++ right)
  | insert {left right : List Char} {c : Char} :
      Text.isSpace c = true → Apart left right → Respaces (left ++ right) (left ++ c :: right)

/-- A change of white space keeps the tokens of an expression. -/
theorem Respaces.scan_eq (h : Respaces text text') (hscan : scan text = .ok tokens)
    (hchain : tokens.IsChain Adjoin) : scan text' = .ok tokens := by
  cases h with
  | @remove left right c hc =>
      rw [scan_around_space hc] at hscan
      obtain ⟨ts, us, hleft, hright, rfl⟩ := both_eq_ok.1 hscan
      rw [scan_append (apart_of_chain hleft hright hchain)]
      exact both_eq_ok.2 ⟨ts, us, hleft, hright, rfl⟩
  | insert hc hapart => rwa [scan_around_space hc, ← scan_append hapart]

/-- So do any number of changes, one after the other. -/
theorem scan_of_respaced (h : Relation.ReflTransGen Respaces text text')
    (hscan : scan text = .ok tokens) (hchain : tokens.IsChain Adjoin) : scan text' = .ok tokens := by
  induction h with
  | refl => exact hscan
  | tail _ hstep ih => exact hstep.scan_eq ih hchain

/-- Texts from which nothing but white space was taken out. -/
theorem respaced_of_sublist (h : text'.Sublist text) (hcompact : Text.compact text' = Text.compact text) :
    Relation.ReflTransGen Respaces text text' := by
  suffices hbehind : ∀ before : List Char,
      Relation.ReflTransGen Respaces (before ++ text) (before ++ text') from hbehind []
  induction h with
  | slnil => exact fun _ => .refl
  | @cons text' text c hsub ih =>
      -- what was taken out is white space, since it does not count
      have hc : Text.isSpace c = true := by
        by_contra hc
        have hlength := (Text.compact_sublist hsub).length_le
        rw [hcompact, Text.compact_cons_of_not_isSpace (by simpa using hc), List.length_cons] at hlength
        omega
      intro before
      rw [Text.compact_cons_of_isSpace hc] at hcompact
      exact .head (.remove hc) (ih hcompact before)
  | @cons_cons text' text c hsub ih =>
      have hrest : Text.compact text' = Text.compact text := by
        by_cases hc : Text.isSpace c = true
        · rwa [Text.compact_cons_of_isSpace hc, Text.compact_cons_of_isSpace hc] at hcompact
        · rw [Text.compact_cons_of_not_isSpace (by simpa using hc),
            Text.compact_cons_of_not_isSpace (by simpa using hc)] at hcompact
          exact (List.cons.inj hcompact).2
      intro before
      rw [List.append_cons before c text, List.append_cons before c text']
      exact ih hrest (before ++ [c])

end Token

namespace Expr

variable {text text' : String} {e : Expr}

/-- The places between the tokens of an expression are those where no number and no name runs across. -/
theorem apart_iff_of_parse (h : parse text = .ok e) {left right : List Char}
    (htext : text.toList = left ++ right) : Token.Apart left right ↔
      ∃ ts us, Token.scan left = .ok ts ∧ Token.scan right = .ok us ∧
        Token.scan text.toList = .ok (ts ++ us) := by
  obtain ⟨tokens, hscan, hderives⟩ := parse_eq_ok_iff.1 h
  rw [hscan]
  constructor
  · intro hapart
    rw [htext, Token.scan_append hapart] at hscan
    obtain ⟨ts, us, hleft, hright, rfl⟩ := Token.both_eq_ok.1 hscan
    exact ⟨ts, us, hleft, hright, rfl⟩
  · rintro ⟨ts, us, hleft, hright, htokens⟩
    obtain rfl := Except.ok.inj htokens
    exact Token.apart_of_chain hleft hright hderives.outline.chain

/-- Changes of white space keep the tree. -/
theorem parse_of_respaced (h : parse text = .ok e)
    (hrun : Relation.ReflTransGen Token.Respaces text.toList text'.toList) : parse text' = .ok e := by
  obtain ⟨tokens, hscan, hderives⟩ := parse_eq_ok_iff.1 h
  exact parse_eq_ok_iff.2 ⟨tokens, Token.scan_of_respaced hrun hscan hderives.outline.chain, hderives⟩

/-- Taking out white space keeps the tree, whether all of it is taken out or some. -/
theorem parse_of_sublist (h : parse text = .ok e) (hsub : text'.toList.Sublist text.toList)
    (hcompact : Text.compact text'.toList = Text.compact text.toList) : parse text' = .ok e :=
  parse_of_respaced h (Token.respaced_of_sublist hsub hcompact)

theorem parse_compact (h : parse text = .ok e) :
    parse (String.ofList (Text.compact text.toList)) = .ok e := by
  refine parse_of_sublist h ?_ ?_
  · rw [String.toList_ofList]
    exact List.filter_sublist
  · rw [String.toList_ofList, Text.compact_compact]

end Expr

end ShapeAssert
