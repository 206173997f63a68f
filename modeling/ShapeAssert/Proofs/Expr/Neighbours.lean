import Mathlib.Data.List.Chain
import ShapeAssert.Proofs.Expr.Grammar
import ShapeAssert.Proofs.Expr.Tokens

/-! Which tokens stand next to each other in an expression. After an operand comes no other operand,
except that a name may be called, and after anything else an operand begins. So in the text of an
expression no closing parenthesis comes right after an opening one. -/

namespace ShapeAssert

namespace Token

/-- An operand may end with the token. -/
def endsOperand : Token → Bool
  | int _ | name _ | rightParen => true
  | _ => false

/-- An operand may begin with the token. -/
def startsOperand : Token → Bool
  | int _ | name _ | leftParen | plus | minus => true
  | _ => false

/-- The tokens that stand between operands. -/
def separates : Token → Bool
  | plus | minus | star | comma => true
  | _ => false

/-- Two tokens that may stand next to each other. -/
inductive Adjoin : Token → Token → Prop where
  | start {a b : Token} : a.endsOperand = false → b.startsOperand = true → Adjoin a b
  | separate {a b : Token} : a.endsOperand = true → b.separates = true → Adjoin a b
  | close {a : Token} : a.endsOperand = true → Adjoin a .rightParen
  | call (letters : String) : Adjoin (.name letters) .leftParen

theorem endsOperand_of_separates {token : Token} (h : token.separates = true) :
    token.endsOperand = false := by
  cases token <;> simp_all [separates, endsOperand]

theorem not_adjoin_parentheses : ¬Adjoin .leftParen .rightParen := by
  rintro (⟨-, h⟩ | ⟨h, -⟩ | h)
  · cases h
  · cases h
  · cases h

/-- Tokens that begin and end as an operand does, every two neighbours of which may stand next to each
other. -/
structure Operand (tokens : List Token) : Prop where
  chain : tokens.IsChain Adjoin
  head : ∃ token ∈ tokens.head?, token.startsOperand = true
  last : ∃ token ∈ tokens.getLast?, token.endsOperand = true

/-- Nothing, or a separator and what begins and ends as an operand does. -/
def Continuation (tokens : List Token) : Prop :=
  tokens = [] ∨ ∃ separator rest, tokens = separator :: rest ∧ separator.separates = true ∧
    Operand rest

namespace Operand

variable {ts us : List Token}

theorem single {token : Token} (hstarts : token.startsOperand = true)
    (hends : token.endsOperand = true) : Operand [token] :=
  ⟨List.isChain_singleton _, ⟨token, rfl, hstarts⟩, ⟨token, rfl, hends⟩⟩

/-- A token may be put before an operand that it may stand next to. -/
theorem cons {token : Token} (h : Operand ts) (hstarts : token.startsOperand = true)
    (hadjoin : ∀ next ∈ ts.head?, Adjoin token next) : Operand (token :: ts) := by
  obtain ⟨last, hlast, hends⟩ := h.last
  refine ⟨List.isChain_cons.2 ⟨hadjoin, h.chain⟩, ⟨token, rfl, hstarts⟩, last, ?_, hends⟩
  rw [List.getLast?_cons, hlast]
  rfl

theorem adjoin_head {token : Token} (h : Operand ts) (hends : token.endsOperand = false) :
    ∀ next ∈ ts.head?, Adjoin token next := by
  obtain ⟨first, hfirst, hstarts⟩ := h.head
  intro next hnext
  obtain rfl : first = next := Option.some.inj (hfirst.symm.trans hnext)
  exact .start hends hstarts

theorem sign {token : Token} (h : Operand ts) (hstarts : token.startsOperand = true)
    (hends : token.endsOperand = false) : Operand (token :: ts) :=
  h.cons hstarts (h.adjoin_head hends)

/-- Two operands with a separator between them. -/
theorem join {separator : Token} (hts : Operand ts) (hseparator : separator.separates = true)
    (hus : Operand us) : Operand (ts ++ separator :: us) := by
  obtain ⟨first, hfirst, hstarts⟩ := hts.head
  obtain ⟨before, hbefore, hends⟩ := hts.last
  obtain ⟨last, hlast, hends'⟩ := hus.last
  have hright : (separator :: us).IsChain Adjoin :=
    List.isChain_cons.2 ⟨hus.adjoin_head (endsOperand_of_separates hseparator), hus.chain⟩
  refine ⟨List.isChain_append.2 ⟨hts.chain, hright, ?_⟩, ⟨first, ?_, hstarts⟩, last, ?_, hends'⟩
  · intro a ha b hb
    obtain rfl : before = a := Option.some.inj (hbefore.symm.trans ha)
    obtain rfl : separator = b := Option.some.inj hb
    exact .separate hends hseparator
  · rw [List.head?_append, hfirst]
    rfl
  · rw [List.getLast?_append, List.getLast?_cons, hlast]
    rfl

theorem append (hts : Operand ts) (hus : Continuation us) : Operand (ts ++ us) := by
  obtain rfl | ⟨separator, rest, rfl, hseparator, hrest⟩ := hus
  · rwa [List.append_nil]
  · exact hts.join hseparator hrest

theorem parentheses (h : Operand ts) :
    Operand (Token.leftParen :: (ts ++ [Token.rightParen])) := by
  obtain ⟨first, hfirst, hstarts⟩ := h.head
  obtain ⟨last, hlast, hends⟩ := h.last
  have hclosed : (ts ++ [Token.rightParen]).IsChain Adjoin := by
    refine List.isChain_append.2 ⟨h.chain, List.isChain_singleton _, fun a ha b hb => ?_⟩
    obtain rfl : last = a := Option.some.inj (hlast.symm.trans ha)
    obtain rfl : Token.rightParen = b := Option.some.inj hb
    exact .close hends
  refine ⟨List.isChain_cons.2 ⟨fun next hnext => ?_, hclosed⟩, ⟨Token.leftParen, rfl, rfl⟩,
    Token.rightParen, ?_, rfl⟩
  · rw [List.head?_append, hfirst] at hnext
    obtain rfl : first = next := Option.some.inj hnext
    exact .start rfl hstarts
  · rw [List.getLast?_cons, List.getLast?_append]
    rfl

end Operand

end Token

open Token in
/-- What the tokens of a phrase look like from outside. -/
def Phrase.Outline : Phrase → List Token → Prop
  | terms _ | factors _ => Continuation
  | _ => Operand

theorem Derives.outline {phrase : Phrase} {tokens : List Token} (h : Derives phrase tokens) :
    phrase.Outline tokens := by
  induction h with
  | sum _ _ ihproduct ihterms => exact ihproduct.append ihterms
  | product _ _ ihsigned ihfactors => exact ihsigned.append ihfactors
  | noTerms => exact .inl rfl
  | noFactors => exact .inl rfl
  | added _ _ ihproduct ihterms => exact .inr ⟨_, _, rfl, rfl, ihproduct.append ihterms⟩
  | subtracted _ _ ihproduct ihterms => exact .inr ⟨_, _, rfl, rfl, ihproduct.append ihterms⟩
  | multiplied _ _ ihsigned ihfactors => exact .inr ⟨_, _, rfl, rfl, ihsigned.append ihfactors⟩
  | positive _ ih => exact ih.sign rfl rfl
  | negative _ ih => exact ih.sign rfl rfl
  | unsigned _ ih => exact ih
  | number n => exact .single rfl rfl
  | named letters => exact .single rfl rfl
  | call _ _ ih =>
      refine ih.parentheses.cons rfl fun next hnext => ?_
      obtain rfl : Token.leftParen = next := Option.some.inj hnext
      exact .call _
  | parentheses _ ih => exact ih.parentheses
  | lastArg _ ih => exact ih
  | moreArgs _ _ ihsum ihargs => exact ihsum.join rfl ihargs

namespace Expr

/-- In the text of an expression a closing parenthesis never follows right on an opening one. -/
theorem not_infix_of_parse {source : String} {e : Expr} (h : parse source = .ok e) :
    ¬['(', ')'] <:+: source.toList := by
  obtain ⟨tokens, hscan, hderives⟩ := parse_eq_ok_iff.1 h
  rintro ⟨before, after, htext⟩
  have hchars : before ++ '(' :: ')' :: after = source.toList := by
    rw [← htext]
    simp
  rw [← hchars, Token.scan_append_symbol Token.symbol_leftParen,
    Token.scan_symbol Token.symbol_rightParen] at hscan
  obtain ⟨ts, us, -, hus, rfl⟩ := Token.both_eq_ok.1 hscan
  obtain ⟨vs, hvs, rfl⟩ := map_eq_ok.1 hus
  obtain ⟨ws, -, rfl⟩ := map_eq_ok.1 hvs
  have hchain : ([.leftParen, .rightParen] : List Token).IsChain Token.Adjoin :=
    hderives.outline.chain.infix ⟨ts, ws, by simp⟩
  exact Token.not_adjoin_parentheses (List.isChain_pair.1 hchain)

end Expr

end ShapeAssert
