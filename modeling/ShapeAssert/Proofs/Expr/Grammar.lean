import ShapeAssert.Proofs.Expr.Readers
import ShapeAssert.Proofs.Sequence

/-! The grammar of expressions. A sum is a product followed by any number of products with a plus or
minus before each; a product is a signed operand followed by any number of them with a star before
each; a signed operand is an atom after any number of signs; an atom is a number, a name, a call of
a function with as many arguments as it accepts, or a sum in parentheses. The readers accept exactly
the phrases of this grammar and build their trees, so no list of tokens has two trees. -/

namespace ShapeAssert

/-- A kind of phrase together with what it stands for. -/
inductive Phrase where
  | sum (e : Expr)
  | terms (rest : List (BinaryOp × Expr))
  | product (e : Expr)
  | factors (rest : List (BinaryOp × Expr))
  | signed (e : Expr)
  | atom (e : Expr)
  | args (es : List Expr)

/-- The tree of an operand and those that follow it, grouped to the left. -/
def Expr.chain (first : Expr) (rest : List (BinaryOp × Expr)) : Expr :=
  rest.foldl (fun left next => .binary next.1 left next.2) first

/-- The functions by the names they are called by, with the numbers of arguments they may have. -/
inductive MayCall : String → Builtin → Nat → Prop where
  | min {count : Nat} : 2 ≤ count → MayCall "min" .min count
  | max {count : Nat} : 2 ≤ count → MayCall "max" .max count
  | abs : MayCall "abs" .abs 1

theorem mayCall_iff {letters : String} {f : Builtin} {count : Nat} :
    MayCall letters f count ↔ letters = f.name ∧ f.accepts count = true := by
  constructor
  · rintro (hcount | hcount | _) <;> simp_all [Builtin.name, Builtin.accepts]
  · rintro ⟨rfl, haccepts⟩
    cases f with
    | min => exact .min (by simpa [Builtin.accepts] using haccepts)
    | max => exact .max (by simpa [Builtin.accepts] using haccepts)
    | abs =>
        obtain rfl : count = 1 := by simpa [Builtin.accepts] using haccepts
        exact .abs

open Token in
/-- The tokens that make up a phrase. -/
inductive Derives : Phrase → List Token → Prop where
  | sum {first : Expr} {rest : List (BinaryOp × Expr)} {ts us : List Token} :
      Derives (.product first) ts → Derives (.terms rest) us →
        Derives (.sum (first.chain rest)) (ts ++ us)
  | noTerms : Derives (.terms []) []
  | added {e : Expr} {rest : List (BinaryOp × Expr)} {ts us : List Token} :
      Derives (.product e) ts → Derives (.terms rest) us →
        Derives (.terms ((.add, e) :: rest)) (plus :: ts ++ us)
  | subtracted {e : Expr} {rest : List (BinaryOp × Expr)} {ts us : List Token} :
      Derives (.product e) ts → Derives (.terms rest) us →
        Derives (.terms ((.sub, e) :: rest)) (minus :: ts ++ us)
  | product {first : Expr} {rest : List (BinaryOp × Expr)} {ts us : List Token} :
      Derives (.signed first) ts → Derives (.factors rest) us →
        Derives (.product (first.chain rest)) (ts ++ us)
  | noFactors : Derives (.factors []) []
  | multiplied {e : Expr} {rest : List (BinaryOp × Expr)} {ts us : List Token} :
      Derives (.signed e) ts → Derives (.factors rest) us →
        Derives (.factors ((.mul, e) :: rest)) (star :: ts ++ us)
  | positive {e : Expr} {ts : List Token} :
      Derives (.signed e) ts → Derives (.signed (.unary .pos e)) (plus :: ts)
  | negative {e : Expr} {ts : List Token} :
      Derives (.signed e) ts → Derives (.signed (.unary .neg e)) (minus :: ts)
  | unsigned {e : Expr} {ts : List Token} : Derives (.atom e) ts → Derives (.signed e) ts
  | number (n : Nat) : Derives (.atom (.int n)) [int n]
  | named (letters : String) : Derives (.atom (.var letters)) [name letters]
  | call {letters : String} {f : Builtin} {es : List Expr} {ts : List Token} :
      MayCall letters f es.length → Derives (.args es) ts →
        Derives (.atom (.call f es)) (name letters :: leftParen :: ts ++ [rightParen])
  | parentheses {e : Expr} {ts : List Token} :
      Derives (.sum e) ts → Derives (.atom e) (leftParen :: ts ++ [rightParen])
  | lastArg {e : Expr} {ts : List Token} : Derives (.sum e) ts → Derives (.args [e]) ts
  | moreArgs {e : Expr} {es : List Expr} {ts us : List Token} :
      Derives (.sum e) ts → Derives (.args es) us →
        Derives (.args (e :: es)) (ts ++ comma :: us)

/-- The phrase stands at the start of the tokens, and the rest follows it. -/
def Phrase.Starts (phrase : Phrase) (tokens rest : List Token) : Prop :=
  ∃ used, Derives phrase used ∧ tokens = used ++ rest

namespace Expr

variable {tokens rest : List Token} {e : Expr}

/-! ### Readers read phrases -/

/-- A plus or minus and a product before further terms are terms. -/
theorem starts_terms {token : Token} {op : BinaryOp} {more : List (BinaryOp × Expr)}
    {mid : List Token} (hop : token.additive? = some op)
    (hproduct : (Phrase.product e).Starts tokens mid) (hmore : (Phrase.terms more).Starts mid rest) :
    (Phrase.terms ((op, e) :: more)).Starts (token :: tokens) rest := by
  obtain ⟨ts, hts, rfl⟩ := hproduct
  obtain ⟨us, hus, rfl⟩ := hmore
  cases token with
  | plus =>
      obtain rfl := Option.some.inj hop
      exact ⟨_, .added hts hus, by simp⟩
  | minus =>
      obtain rfl := Option.some.inj hop
      exact ⟨_, .subtracted hts hus, by simp⟩
  | _ => cases hop

theorem starts_signed {token : Token} {op : UnaryOp} (hop : token.sign? = some op)
    (hsigned : (Phrase.signed e).Starts tokens rest) :
    (Phrase.signed (.unary op e)).Starts (token :: tokens) rest := by
  obtain ⟨ts, hts, rfl⟩ := hsigned
  cases token with
  | plus =>
      obtain rfl := Option.some.inj hop
      exact ⟨_, .positive hts, rfl⟩
  | minus =>
      obtain rfl := Option.some.inj hop
      exact ⟨_, .negative hts, rfl⟩
  | _ => cases hop

-- Each reader calls readers on the same tokens only at a lower level, as its own recursion does.
mutual

theorem starts_of_readSum {tokens rest : List Token} {e : Expr}
    (h : Leaves (readSum tokens) e rest) : (Phrase.sum e).Starts tokens rest := by
  obtain ⟨first, mid, hfirst, hterms⟩ := leaves_readSum.1 h
  have hmid := hfirst.property
  obtain ⟨ts, hts, rfl⟩ := starts_of_readProduct hfirst
  obtain ⟨more, rfl, us, hus, rfl⟩ := starts_of_readTerms hterms
  exact ⟨ts ++ us, .sum hts hus, by simp⟩
termination_by (tokens.length, 4)

theorem starts_of_readTerms {tokens rest : List Token} {left e : Expr}
    (h : Leaves (readTerms left tokens) e rest) :
    ∃ more, e = left.chain more ∧ (Phrase.terms more).Starts tokens rest := by
  match tokens, h with
  | [], h =>
      obtain ⟨rfl, rfl⟩ := (leaves_readTerms_stop (by simp)).1 h
      exact ⟨[], rfl, [], .noTerms, rfl⟩
  | token :: tokens, h =>
      cases hop : token.additive? with
      | none =>
          obtain ⟨rfl, rfl⟩ := (leaves_readTerms_stop (by simpa using hop)).1 h
          exact ⟨[], rfl, [], .noTerms, rfl⟩
      | some op =>
          obtain ⟨right, mid, hright, hterms⟩ := (leaves_readTerms_more hop).1 h
          have hmid := hright.property
          obtain ⟨more, rfl, hmore⟩ := starts_of_readTerms hterms
          exact ⟨(op, right) :: more, rfl, starts_terms hop (starts_of_readProduct hright) hmore⟩
termination_by (tokens.length, 0)

theorem starts_of_readProduct {tokens rest : List Token} {e : Expr}
    (h : Leaves (readProduct tokens) e rest) : (Phrase.product e).Starts tokens rest := by
  obtain ⟨first, mid, hfirst, hfactors⟩ := leaves_readProduct.1 h
  have hmid := hfirst.property
  obtain ⟨ts, hts, rfl⟩ := starts_of_readSigned hfirst
  obtain ⟨more, rfl, us, hus, rfl⟩ := starts_of_readFactors hfactors
  exact ⟨ts ++ us, .product hts hus, by simp⟩
termination_by (tokens.length, 3)

theorem starts_of_readFactors {tokens rest : List Token} {left e : Expr}
    (h : Leaves (readFactors left tokens) e rest) :
    ∃ more, e = left.chain more ∧ (Phrase.factors more).Starts tokens rest := by
  by_cases hstar : tokens.head? = some .star
  · obtain ⟨next, hnext⟩ := List.head?_eq_some_iff.1 hstar
    have hshorter : next.length < tokens.length := by simp [hnext]
    rw [hnext] at h ⊢
    obtain ⟨right, mid, hright, hfactors⟩ := leaves_readFactors_more.1 h
    have hmid := Nat.lt_trans hright.property hshorter
    obtain ⟨ts, hts, rfl⟩ := starts_of_readSigned hright
    obtain ⟨more, rfl, us, hus, rfl⟩ := starts_of_readFactors hfactors
    exact ⟨(.mul, right) :: more, rfl, _, .multiplied hts hus, by simp⟩
  · obtain ⟨rfl, rfl⟩ := (leaves_readFactors_stop hstar).1 h
    exact ⟨[], rfl, [], .noFactors, rfl⟩
termination_by (tokens.length, 0)

theorem starts_of_readSigned {tokens rest : List Token} {e : Expr}
    (h : Leaves (readSigned tokens) e rest) : (Phrase.signed e).Starts tokens rest := by
  by_cases hatom : ∀ token ∈ tokens.head?, token.sign? = none
  · obtain ⟨ts, hts, rfl⟩ := starts_of_readAtom ((leaves_readSigned_atom hatom).1 h)
    exact ⟨ts, .unsigned hts, rfl⟩
  · match tokens, h with
    | [], h => simp at hatom
    | token :: tokens, h =>
        obtain ⟨op, hop⟩ := Option.ne_none_iff_exists'.1 (by simpa using hatom)
        obtain ⟨operand, hoperand, rfl⟩ := (leaves_readSigned_sign hop).1 h
        exact starts_signed hop (starts_of_readSigned hoperand)
termination_by (tokens.length, 2)

theorem starts_of_readAtom {tokens rest : List Token} {e : Expr}
    (h : Leaves (readAtom tokens) e rest) : (Phrase.atom e).Starts tokens rest := by
  match tokens, h with
  | [], h => simp [readAtom] at h
  | .int n :: tokens, h =>
      rw [readAtom] at h
      obtain ⟨rfl, rfl⟩ := leaves_ok.1 h
      exact ⟨[.int n], .number n, rfl⟩
  | .name letters :: tokens, h =>
      by_cases hparen : tokens.head? = some .leftParen
      · obtain ⟨next, rfl⟩ := List.head?_eq_some_iff.1 hparen
        obtain ⟨f, args, hname, hargs, haccepts, rfl⟩ := leaves_readAtom_call.1 h
        obtain ⟨ts, hts, rfl⟩ := starts_of_readArgs hargs
        exact ⟨_, .call (mayCall_iff.2 ⟨hname, haccepts⟩) hts, by simp⟩
      · obtain ⟨rfl, rfl⟩ := (leaves_readAtom_variable hparen).1 h
        exact ⟨[.name letters], .named letters, rfl⟩
  | .leftParen :: tokens, h =>
      obtain ⟨ts, hts, rfl⟩ := starts_of_readSum (leaves_readAtom_parentheses.1 h)
      exact ⟨_, .parentheses hts, by simp⟩
  | .plus :: tokens, h => simp [readAtom] at h
  | .minus :: tokens, h => simp [readAtom] at h
  | .star :: tokens, h => simp [readAtom] at h
  | .rightParen :: tokens, h => simp [readAtom] at h
  | .comma :: tokens, h => simp [readAtom] at h
termination_by (tokens.length, 1)

theorem starts_of_readArgs {tokens rest : List Token} {es : List Expr}
    (h : Leaves (readArgs tokens) es rest) : (Phrase.args es).Starts tokens rest := by
  obtain ⟨first, mid, hfirst, ⟨-, rfl, rfl⟩ | ⟨next, more, rfl, hmore, rfl⟩⟩ := leaves_readArgs.1 h
  · obtain ⟨ts, hts, rfl⟩ := starts_of_readSum hfirst
    exact ⟨ts, .lastArg hts, rfl⟩
  · have hmid := hfirst.property
    obtain ⟨ts, hts, rfl⟩ := starts_of_readSum hfirst
    obtain ⟨us, hus, rfl⟩ := starts_of_readArgs hmore
    exact ⟨_, .moreArgs hts hus, by simp⟩
termination_by (tokens.length, 5)

end

/-! ### Phrases are read -/

end Expr

namespace Phrase

/-- The tokens that would continue a phrase, or turn a name at its end into a call. -/
def continuations : Phrase → List Token
  | sum _ | terms _ => [.plus, .minus, .star, .leftParen]
  | product _ | factors _ => [.star, .leftParen]
  | signed _ | atom _ => [.leftParen]
  | args _ => [.comma, .plus, .minus, .star, .leftParen]

/-- The phrase is over where the rest begins. -/
def EndsBefore (phrase : Phrase) (rest : List Token) : Prop :=
  ∀ token ∈ rest.head?, token ∉ phrase.continuations

@[simp]
theorem endsBefore_nil (phrase : Phrase) : phrase.EndsBefore [] :=
  fun _ htoken => nomatch htoken

@[simp]
theorem endsBefore_cons {phrase : Phrase} {token : Token} {rest : List Token} :
    phrase.EndsBefore (token :: rest) ↔ token ∉ phrase.continuations := by
  simp [EndsBefore]

/-- A closing parenthesis ends every phrase. -/
theorem endsBefore_rightParen (phrase : Phrase) (rest : List Token) :
    phrase.EndsBefore (.rightParen :: rest) := by
  cases phrase <;> simp [continuations]

/-- The reader of the phrase reads it at the start of the tokens and leaves the rest. -/
def Read : Phrase → List Token → List Token → Prop
  | sum e, tokens, rest => Expr.Leaves (Expr.readSum tokens) e rest
  | terms more, tokens, rest =>
      ∀ left, Expr.Leaves (Expr.readTerms left tokens) (left.chain more) rest
  | product e, tokens, rest => Expr.Leaves (Expr.readProduct tokens) e rest
  | factors more, tokens, rest =>
      ∀ left, Expr.Leaves (Expr.readFactors left tokens) (left.chain more) rest
  | signed e, tokens, rest => Expr.Leaves (Expr.readSigned tokens) e rest
  | atom e, tokens, rest => Expr.Leaves (Expr.readAtom tokens) e rest
  | args es, tokens, rest => Expr.Leaves (Expr.readArgs tokens) es rest

end Phrase

namespace Derives

variable {used rest : List Token}

/-- What follows a product in a sum does not continue the product. -/
theorem product_endsBefore {e : Expr} {more : List (BinaryOp × Expr)}
    (h : Derives (.terms more) used) (hend : (Phrase.terms more).EndsBefore rest) :
    (Phrase.product e).EndsBefore (used ++ rest) := by
  cases h with
  | noTerms =>
      intro token htoken hmem
      exact hend token htoken (by simp_all [Phrase.continuations])
  | added _ _ => simp [Phrase.continuations]
  | subtracted _ _ => simp [Phrase.continuations]

/-- What follows a signed operand in a product does not continue the operand. -/
theorem signed_endsBefore {e : Expr} {more : List (BinaryOp × Expr)}
    (h : Derives (.factors more) used) (hend : (Phrase.factors more).EndsBefore rest) :
    (Phrase.signed e).EndsBefore (used ++ rest) := by
  cases h with
  | noFactors =>
      intro token htoken hmem
      exact hend token htoken (by simp_all [Phrase.continuations])
  | multiplied _ _ => simp [Phrase.continuations]

theorem head_atom {e : Expr} (h : Derives (.atom e) used) :
    ∀ token ∈ (used ++ rest).head?, token.sign? = none := by
  cases h <;> simp [Token.sign?]

/-- A phrase is read with exactly its own trees, whatever follows it. -/
theorem read {phrase : Phrase} (h : Derives phrase used) (hend : phrase.EndsBefore rest) :
    phrase.Read (used ++ rest) rest := by
  induction h generalizing rest with
  | sum hproduct hterms ihproduct ihterms =>
      rw [List.append_assoc]
      exact Expr.leaves_readSum.2
        ⟨_, _, ihproduct (hterms.product_endsBefore hend), ihterms hend _⟩
  | noTerms =>
      intro left
      refine (Expr.leaves_readTerms_stop fun token htoken => ?_).2 ⟨rfl, rfl⟩
      have hcontinues := hend token htoken
      cases token <;> simp_all [Phrase.continuations, Token.additive?]
  | added hproduct hterms ihproduct ihterms =>
      intro left
      rw [List.cons_append, List.cons_append, List.append_assoc]
      exact (Expr.leaves_readTerms_more rfl).2
        ⟨_, _, ihproduct (hterms.product_endsBefore hend), ihterms hend _⟩
  | subtracted hproduct hterms ihproduct ihterms =>
      intro left
      rw [List.cons_append, List.cons_append, List.append_assoc]
      exact (Expr.leaves_readTerms_more rfl).2
        ⟨_, _, ihproduct (hterms.product_endsBefore hend), ihterms hend _⟩
  | product hsigned hfactors ihsigned ihfactors =>
      rw [List.append_assoc]
      exact Expr.leaves_readProduct.2
        ⟨_, _, ihsigned (hfactors.signed_endsBefore hend), ihfactors hend _⟩
  | noFactors =>
      intro left
      refine (Expr.leaves_readFactors_stop fun hstar => ?_).2 ⟨rfl, rfl⟩
      exact hend .star hstar (by simp [Phrase.continuations])
  | multiplied hsigned hfactors ihsigned ihfactors =>
      intro left
      rw [List.cons_append, List.cons_append, List.append_assoc]
      exact Expr.leaves_readFactors_more.2
        ⟨_, _, ihsigned (hfactors.signed_endsBefore hend), ihfactors hend _⟩
  | positive _ ih => exact (Expr.leaves_readSigned_sign rfl).2 ⟨_, ih hend, rfl⟩
  | negative _ ih => exact (Expr.leaves_readSigned_sign rfl).2 ⟨_, ih hend, rfl⟩
  | unsigned hatom ih => exact (Expr.leaves_readSigned_atom hatom.head_atom).2 (ih hend)
  | number n => simp [Phrase.Read, Expr.readAtom]
  | named letters =>
      refine (Expr.leaves_readAtom_variable fun hparen => ?_).2 ⟨rfl, rfl⟩
      exact hend .leftParen hparen (by simp [Phrase.continuations])
  | call hcall _ ih =>
      obtain ⟨hname, haccepts⟩ := mayCall_iff.1 hcall
      rw [List.cons_append, List.cons_append, List.append_assoc]
      exact Expr.leaves_readAtom_call.2
        ⟨_, _, hname, ih (Phrase.endsBefore_rightParen _ _), haccepts, rfl⟩
  | parentheses _ ih =>
      rw [List.cons_append, List.cons_append, List.append_assoc]
      exact Expr.leaves_readAtom_parentheses.2
        (ih (Phrase.endsBefore_rightParen _ _))
  | lastArg _ ih =>
      have hsum : rest.head? ≠ some .comma := fun hcomma =>
        hend .comma hcomma (by simp [Phrase.continuations])
      refine Expr.leaves_readArgs.2 ⟨_, rest, ih fun token htoken hmem => ?_, .inl ⟨hsum, rfl, rfl⟩⟩
      exact hend token htoken (List.mem_cons_of_mem _ hmem)
  | moreArgs _ _ ihsum ihargs =>
      rw [List.append_assoc]
      exact Expr.leaves_readArgs.2
        ⟨_, _, ihsum (by simp [Phrase.continuations]),
          .inr ⟨_, _, rfl, ihargs hend, rfl⟩⟩

end Derives

namespace Expr

theorem ofTokens_eq_ok_iff {tokens : List Token} {e : Expr} :
    ofTokens tokens = .ok e ↔ Derives (.sum e) tokens := by
  have hofTokens : ofTokens tokens = .ok e ↔ Leaves (readSum tokens) e [] := by
    rw [ofTokens]
    split
    · next hsum => simp [hsum]
    · next e' hlt hsum => simp [hsum, eq_comm]
    · next e' token rest hlt hsum => simp [hsum]
  rw [hofTokens]
  constructor
  · intro h
    obtain ⟨used, hused, htokens⟩ := starts_of_readSum h
    rwa [htokens, List.append_nil]
  · intro h
    have hread : (Phrase.sum e).Read (tokens ++ []) [] := h.read (Phrase.endsBefore_nil _)
    rwa [List.append_nil] at hread

theorem derives_unique {tokens : List Token} {e e' : Expr} (h : Derives (.sum e) tokens)
    (h' : Derives (.sum e') tokens) : e = e' := by
  have hread := (ofTokens_eq_ok_iff.2 h).symm.trans (ofTokens_eq_ok_iff.2 h')
  exact Except.ok.inj hread

/-- The descent decides every list of tokens: it returns a derived tree, or there is none. -/
theorem ofTokens_decides (tokens : List Token) :
    (∃ e, Derives (.sum e) tokens ∧ ofTokens tokens = .ok e) ∨
      (∀ e, ¬Derives (.sum e) tokens) ∧ ∃ fault, ofTokens tokens = .error fault := by
  cases h : ofTokens tokens with
  | ok e => exact .inl ⟨e, ofTokens_eq_ok_iff.1 h, rfl⟩
  | error fault =>
      refine .inr ⟨fun e he => ?_, fault, rfl⟩
      rw [ofTokens_eq_ok_iff.2 he] at h
      cases h

theorem parse_eq_ok_iff {source : String} {e : Expr} :
    parse source = .ok e ↔
      ∃ tokens, Token.scan source.toList = .ok tokens ∧ Derives (.sum e) tokens := by
  rw [parse, mapError_eq_ok, ofChars, bind_eq_ok]
  exact exists_congr fun tokens => and_congr_right fun _ => ofTokens_eq_ok_iff

theorem parse_eq_error {source : String} {error : Error} (h : parse source = .error error) :
    ∃ fault, error = .invalidExpression source fault := by
  obtain ⟨fault, -, heq⟩ := mapError_eq_error.1 h
  exact ⟨fault, heq.symm⟩

/-- A text whose tokens the grammar derives is read as their tree, which is the only one. Every other
text is refused with an error that quotes the whole of it, and the descent ends on every list of
tokens. -/
theorem parse_accepts_exactly_grammar (source : String) :
    (∀ tokens, Token.scan source.toList = .ok tokens →
      ∀ e, parse source = .ok e ↔ Derives (.sum e) tokens) ∧
    ((∀ tokens e, Token.scan source.toList = .ok tokens → ¬Derives (.sum e) tokens) →
      ∃ fault, parse source = .error (.invalidExpression source fault)) ∧
    (∀ tokens e e', Derives (.sum e) tokens → Derives (.sum e') tokens → e = e') ∧
    ∀ tokens,
      (∃ e, Derives (.sum e) tokens ∧ ofTokens tokens = .ok e) ∨
        (∀ e, ¬Derives (.sum e) tokens) ∧ ∃ fault, ofTokens tokens = .error fault := by
  refine ⟨fun tokens hscan e => ?_, fun hnone => ?_, fun _ _ _ => derives_unique,
    ofTokens_decides⟩
  · simp [parse_eq_ok_iff, hscan]
  · cases h : parse source with
    | ok e =>
        obtain ⟨tokens, hscan, he⟩ := parse_eq_ok_iff.1 h
        exact absurd he (hnone tokens e hscan)
    | error error =>
        obtain ⟨fault, rfl⟩ := parse_eq_error h
        exact ⟨fault, rfl⟩

end Expr

end ShapeAssert
