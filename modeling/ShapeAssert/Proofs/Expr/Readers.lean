import ShapeAssert.Expr.Parser

/-! What each reader of the recursive descent reads and leaves, said without the bound that makes the
descent end. A reader that extends an operand stops at the first token that is none of its
operators, so there is one equation for stopping and one for going on. -/

namespace ShapeAssert

namespace Expr

/-- A reader has read something and left the rest. -/
def Leaves {α : Type} {P : List Token → Prop} (result : Except SyntaxFault (α × Subtype P))
    (a : α) (rest : List Token) : Prop :=
  ∃ h, result = .ok (a, ⟨rest, h⟩)

theorem Leaves.property {α : Type} {P : List Token → Prop}
    {result : Except SyntaxFault (α × Subtype P)} {a : α} {rest : List Token}
    (h : Leaves result a rest) : P rest :=
  h.1

@[simp] theorem leaves_ok {α : Type} {P : List Token → Prop} {a b : α} {left : Subtype P}
    {rest : List Token} :
    Leaves (.ok (a, left) : Except SyntaxFault (α × Subtype P)) b rest ↔ b = a ∧ rest = left.1 := by
  obtain ⟨left, hleft⟩ := left
  simp only [Leaves, Except.ok.injEq, Prod.mk.injEq, Subtype.mk.injEq]
  constructor
  · rintro ⟨_, rfl, rfl⟩
    exact ⟨rfl, rfl⟩
  · rintro ⟨rfl, rfl⟩
    exact ⟨hleft, rfl, rfl⟩

@[simp] theorem leaves_error {α : Type} {P : List Token → Prop} {fault : SyntaxFault} {a : α}
    {rest : List Token} :
    ¬Leaves (.error fault : Except SyntaxFault (α × Subtype P)) a rest := by
  rintro ⟨_, h⟩
  cases h

theorem expect_eq_ok {token : Token} {tokens : List Token}
    {left : { rest : List Token // rest.length < tokens.length }} :
    expect token tokens = .ok left ↔ tokens = token :: left.1 := by
  obtain ⟨left, hleft⟩ := left
  cases tokens with
  | nil => simp at hleft
  | cons next rest =>
      by_cases heq : next = token
      · simp [expect, heq, eq_comm]
      · simp [expect, heq]

variable {tokens rest : List Token} {e left : Expr}

theorem leaves_readSum :
    Leaves (readSum tokens) e rest ↔
      ∃ first mid, Leaves (readProduct tokens) first mid ∧ Leaves (readTerms first mid) e rest := by
  rw [readSum]
  constructor
  · intro h
    split at h
    · simp at h
    · next first mid hmid hfirst =>
      refine ⟨first, mid, ⟨hmid, hfirst⟩, ?_⟩
      split at h
      · simp at h
      · next e' rest' hrest hterms =>
        obtain ⟨rfl, rfl⟩ := leaves_ok.1 h
        exact ⟨hrest, hterms⟩
  · rintro ⟨first, mid, ⟨hmid, hfirst⟩, hrest, hterms⟩
    simp [hfirst, hterms]

theorem leaves_readProduct :
    Leaves (readProduct tokens) e rest ↔
      ∃ first mid, Leaves (readSigned tokens) first mid ∧ Leaves (readFactors first mid) e rest := by
  rw [readProduct]
  constructor
  · intro h
    split at h
    · simp at h
    · next first mid hmid hfirst =>
      refine ⟨first, mid, ⟨hmid, hfirst⟩, ?_⟩
      split at h
      · simp at h
      · next e' rest' hrest hfactors =>
        obtain ⟨rfl, rfl⟩ := leaves_ok.1 h
        exact ⟨hrest, hfactors⟩
  · rintro ⟨first, mid, ⟨hmid, hfirst⟩, hrest, hfactors⟩
    simp [hfirst, hfactors]

theorem leaves_readTerms_stop (hstop : ∀ token ∈ tokens.head?, token.additive? = none) :
    Leaves (readTerms left tokens) e rest ↔ e = left ∧ rest = tokens := by
  rw [readTerms.eq_def]
  cases tokens with
  | nil => simp
  | cons token tokens => simp [hstop token rfl]

theorem leaves_readTerms_more {token : Token} {op : BinaryOp} (hop : token.additive? = some op) :
    Leaves (readTerms left (token :: tokens)) e rest ↔
      ∃ right mid, Leaves (readProduct tokens) right mid ∧
        Leaves (readTerms (.binary op left right) mid) e rest := by
  rw [readTerms]
  simp only [hop]
  constructor
  · intro h
    split at h
    · simp at h
    · next right mid hmid hright =>
      refine ⟨right, mid, ⟨hmid, hright⟩, ?_⟩
      split at h
      · simp at h
      · next e' rest' hrest hterms =>
        obtain ⟨rfl, rfl⟩ := leaves_ok.1 h
        exact ⟨hrest, hterms⟩
  · rintro ⟨right, mid, ⟨hmid, hright⟩, hrest, hterms⟩
    simp [hright, hterms]

theorem leaves_readFactors_stop (hstop : tokens.head? ≠ some .star) :
    Leaves (readFactors left tokens) e rest ↔ e = left ∧ rest = tokens := by
  rw [readFactors]
  · simp
  · rintro tokens rfl
    exact hstop rfl

theorem leaves_readFactors_more :
    Leaves (readFactors left (.star :: tokens)) e rest ↔
      ∃ right mid, Leaves (readSigned tokens) right mid ∧
        Leaves (readFactors (.binary .mul left right) mid) e rest := by
  rw [readFactors]
  constructor
  · intro h
    split at h
    · simp at h
    · next right mid hmid hright =>
      refine ⟨right, mid, ⟨hmid, hright⟩, ?_⟩
      split at h
      · simp at h
      · next e' rest' hrest hfactors =>
        obtain ⟨rfl, rfl⟩ := leaves_ok.1 h
        exact ⟨hrest, hfactors⟩
  · rintro ⟨right, mid, ⟨hmid, hright⟩, hrest, hfactors⟩
    simp [hright, hfactors]

theorem leaves_readSigned_sign {token : Token} {op : UnaryOp} (hop : token.sign? = some op) :
    Leaves (readSigned (token :: tokens)) e rest ↔
      ∃ operand, Leaves (readSigned tokens) operand rest ∧ e = .unary op operand := by
  rw [readSigned]
  simp only [hop]
  constructor
  · intro h
    split at h
    · simp at h
    · next operand rest' hrest hoperand =>
      obtain ⟨rfl, rfl⟩ := leaves_ok.1 h
      exact ⟨operand, ⟨hrest, hoperand⟩, rfl⟩
  · rintro ⟨operand, ⟨hrest, hoperand⟩, rfl⟩
    simp [hoperand]

theorem leaves_readSigned_atom (hsign : ∀ token ∈ tokens.head?, token.sign? = none) :
    Leaves (readSigned tokens) e rest ↔ Leaves (readAtom tokens) e rest := by
  rw [readSigned.eq_def]
  cases tokens with
  | nil => simp [readAtom]
  | cons token tokens => simp [hsign token rfl]

theorem leaves_readAtom_call {letters : String} :
    Leaves (readAtom (.name letters :: .leftParen :: tokens)) e rest ↔
      ∃ f args, letters = f.name ∧ Leaves (readArgs tokens) args (.rightParen :: rest) ∧
        f.accepts args.length = true ∧ e = .call f args := by
  rw [readAtom]
  constructor
  · intro h
    split at h
    · simp at h
    · next f hf =>
      split at h
      · simp at h
      · next args mid hmid hargs =>
        split at h
        · simp at h
        · next rest' hrest hexpect =>
          have hargs : Leaves (readArgs tokens) args mid := ⟨hmid, hargs⟩
          rw [expect_eq_ok.1 hexpect] at hargs
          split at h
          · next haccepts =>
            obtain ⟨rfl, rfl⟩ := leaves_ok.1 h
            exact ⟨f, args, Builtin.ofName?_eq_some.1 hf, hargs, haccepts, rfl⟩
          · simp at h
  · rintro ⟨f, args, rfl, ⟨hmid, hargs⟩, haccepts, rfl⟩
    simp [Builtin.ofName?_eq_some.2 rfl, hargs, expect, haccepts]

theorem leaves_readAtom_parentheses :
    Leaves (readAtom (.leftParen :: tokens)) e rest ↔
      Leaves (readSum tokens) e (.rightParen :: rest) := by
  rw [readAtom]
  constructor
  · intro h
    split at h
    · simp at h
    · next e' mid hmid hsum =>
      split at h
      · simp at h
      · next rest' hrest hexpect =>
        have hsum : Leaves (readSum tokens) e' mid := ⟨hmid, hsum⟩
        rw [expect_eq_ok.1 hexpect] at hsum
        obtain ⟨rfl, rfl⟩ := leaves_ok.1 h
        exact hsum
  · rintro ⟨hmid, hsum⟩
    simp [hsum, expect]

theorem leaves_readAtom_variable {letters : String} (hparen : tokens.head? ≠ some .leftParen) :
    Leaves (readAtom (.name letters :: tokens)) e rest ↔ e = .var letters ∧ rest = tokens := by
  rw [readAtom]
  · simp
  · rintro tokens rfl
    exact hparen rfl

theorem leaves_readArgs {es : List Expr} :
    Leaves (readArgs tokens) es rest ↔
      ∃ first mid, Leaves (readSum tokens) first mid ∧
        ((mid.head? ≠ some .comma ∧ es = [first] ∧ rest = mid) ∨
          ∃ next more, mid = .comma :: next ∧ Leaves (readArgs next) more rest ∧
            es = first :: more) := by
  rw [readArgs]
  constructor
  · intro h
    split at h
    · simp at h
    · next first hmid hfirst =>
      obtain ⟨rfl, rfl⟩ := leaves_ok.1 h
      exact ⟨first, [], ⟨hmid, hfirst⟩, .inl ⟨by simp, rfl, rfl⟩⟩
    · next first token next hmid hfirst =>
      refine ⟨first, token :: next, ⟨hmid, hfirst⟩, ?_⟩
      split at h
      · next heq =>
        subst heq
        split at h
        · simp at h
        · next more rest' hrest hmore =>
          obtain ⟨rfl, rfl⟩ := leaves_ok.1 h
          exact .inr ⟨next, more, rfl, ⟨hrest, hmore⟩, rfl⟩
      · next hne =>
        obtain ⟨rfl, rfl⟩ := leaves_ok.1 h
        exact .inl ⟨by simpa using hne, rfl, rfl⟩
  · rintro ⟨first, mid, ⟨hmid, hfirst⟩, ⟨hcomma, rfl, rfl⟩ |
      ⟨next, more, rfl, ⟨hrest, hmore⟩, rfl⟩⟩
    · cases rest with
      | nil => simp [hfirst]
      | cons token rest => simp [hfirst, show token ≠ .comma by simpa using hcomma]
    · simp [hfirst, hmore]

end Expr

end ShapeAssert
