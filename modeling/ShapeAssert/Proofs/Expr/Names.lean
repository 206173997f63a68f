import ShapeAssert.Proofs.Expr.Variables

/-! The names in the text of an expression. A name that an opening parenthesis follows is called, and is
that of a function; any other name is a variable. So the letters of an expression are those of the names
in its text that are not called. -/

namespace ShapeAssert

namespace Token

/-- A name right before the tokens is called. -/
def opens (tokens : List Token) : Bool :=
  tokens.head? == some leftParen

/-- The names among the tokens that are called, or those that are not, from left to right. -/
def names (called : Bool) : List Token → List String
  | [] => []
  | name letters :: rest =>
      if opens rest = called then letters :: names called rest else names called rest
  | _ :: rest => names called rest

theorem mem_names {called : Bool} {tokens : List Token} {letters : String} :
    letters ∈ names called tokens ↔
      ∃ before after, tokens = before ++ name letters :: after ∧ opens after = called := by
  induction tokens with
  | nil => simp [names]
  | cons token rest ih =>
      have hsplit : (∃ before after, token :: rest = before ++ name letters :: after ∧
          opens after = called) ↔ (token = name letters ∧ opens rest = called) ∨
            ∃ before after, rest = before ++ name letters :: after ∧ opens after = called := by
        constructor
        · rintro ⟨_ | ⟨_, before⟩, after, heq, hopens⟩
          · obtain ⟨rfl, rfl⟩ := List.cons.inj heq
            exact .inl ⟨rfl, hopens⟩
          · obtain ⟨rfl, rfl⟩ := List.cons.inj heq
            exact .inr ⟨before, after, rfl, hopens⟩
        · rintro (⟨rfl, hopens⟩ | ⟨before, after, rfl, hopens⟩)
          · exact ⟨[], rest, rfl, hopens⟩
          · exact ⟨token :: before, after, rfl, hopens⟩
      rw [hsplit, ← ih]
      cases token with
      | name others =>
          rw [names, Token.name.injEq]
          split <;> simp_all [eq_comm]
      | _ => simp [names]

end Token

namespace Expr

mutual

/-- The names of the functions an expression calls, or of its variables, from left to right. -/
def names (called : Bool) : Expr → List String
  | int _ => []
  | var name => if called then [] else [name]
  | unary _ e => e.names called
  | binary _ l r => l.names called ++ r.names called
  | call f args => (if called then [f.name] else []) ++ namesArgs called args

def namesArgs (called : Bool) : List Expr → List String
  | [] => []
  | e :: rest => e.names called ++ namesArgs called rest

end

theorem names_chain (called : Bool) (first : Expr) (rest : List (BinaryOp × Expr)) :
    (first.chain rest).names called =
      first.names called ++ rest.flatMap fun next => next.2.names called := by
  induction rest generalizing first with
  | nil => rw [chain, List.foldl_nil, List.flatMap_nil, List.append_nil]
  | cons next rest ih =>
      rw [chain, List.foldl_cons, ← chain, ih, names, List.flatMap_cons, List.append_assoc]

end Expr

/-- The names of the functions that a phrase calls, or of its variables. -/
def Phrase.names (called : Bool) : Phrase → List String
  | sum e | product e | signed e | atom e => e.names called
  | terms rest | factors rest => rest.flatMap fun next => next.2.names called
  | args es => Expr.namesArgs called es

/-- No name at the end of a phrase is called by what follows it. -/
theorem Phrase.EndsBefore.opens_eq_false {phrase : Phrase} {rest : List Token}
    (h : phrase.EndsBefore rest) : Token.opens rest = false := by
  rw [Token.opens, beq_eq_false_iff_ne]
  intro hhead
  exact h .leftParen hhead (by cases phrase <;> simp [continuations])

/-- The tokens of a phrase hold its names in their order. -/
theorem Derives.names_append {phrase : Phrase} {used : List Token} (h : Derives phrase used)
    (rest : List Token) (hend : phrase.EndsBefore rest) (called : Bool) :
    Token.names called (used ++ rest) = phrase.names called ++ Token.names called rest := by
  induction h generalizing rest with
  | sum _ hterms ihproduct ihterms =>
      rw [List.append_assoc, ihproduct _ (hterms.product_endsBefore hend), ihterms _ hend]
      simp only [Phrase.names, Expr.names_chain, List.append_assoc]
  | product _ hfactors ihsigned ihfactors =>
      rw [List.append_assoc, ihsigned _ (hfactors.signed_endsBefore hend), ihfactors _ hend]
      simp only [Phrase.names, Expr.names_chain, List.append_assoc]
  | noTerms => rfl
  | noFactors => rfl
  | added _ hterms ihproduct ihterms | subtracted _ hterms ihproduct ihterms =>
      simp only [List.cons_append, List.append_assoc, Token.names]
      rw [ihproduct _ (hterms.product_endsBefore hend), ihterms _ hend]
      simp only [Phrase.names, List.flatMap_cons, List.append_assoc]
  | multiplied _ hfactors ihsigned ihfactors =>
      simp only [List.cons_append, List.append_assoc, Token.names]
      rw [ihsigned _ (hfactors.signed_endsBefore hend), ihfactors _ hend]
      simp only [Phrase.names, List.flatMap_cons, List.append_assoc]
  | positive _ ih | negative _ ih =>
      simp only [List.cons_append, Token.names]
      exact ih _ hend
  | unsigned _ ih => exact ih _ hend
  | number n => rfl
  | named letters =>
      simp only [List.cons_append, List.nil_append, Token.names, hend.opens_eq_false]
      cases called <;> rfl
  | call hcall _ ih =>
      obtain ⟨rfl, -⟩ := mayCall_iff.1 hcall
      have hargs := ih (.rightParen :: rest) (Phrase.endsBefore_rightParen _ _)
      simp only [List.cons_append, List.append_assoc, List.nil_append, Token.names,
        Token.opens] at hargs ⊢
      rw [hargs]
      cases called <;> rfl
  | parentheses _ ih =>
      have hsum := ih (.rightParen :: rest) (Phrase.endsBefore_rightParen _ _)
      simp only [List.cons_append, List.append_assoc, List.nil_append, Token.names] at hsum ⊢
      exact hsum
  | lastArg _ ih =>
      rw [ih rest fun token htoken hmem => hend token htoken (List.mem_cons_of_mem _ hmem)]
      simp only [Phrase.names, Expr.namesArgs, List.append_nil]
  | moreArgs _ _ ihsum ihargs =>
      rw [List.append_assoc, ihsum _ (by simp [Phrase.continuations])]
      simp only [List.cons_append, Token.names]
      rw [ihargs rest hend]
      simp only [Phrase.names, Expr.namesArgs, List.append_assoc]

namespace Expr

variable {e : Expr} {c : Char}

/-- The names in the text of an expression are those of its tree. -/
theorem names_of_parse {source : String} {tokens : List Token} (h : parse source = .ok e)
    (hscan : Token.scan source.toList = .ok tokens) (called : Bool) :
    Token.names called tokens = e.names called := by
  obtain ⟨tokens', hscan', hderives⟩ := parse_eq_ok_iff.1 h
  obtain rfl := Except.ok.inj (hscan.symm.trans hscan')
  have hnames := hderives.names_append [] (Phrase.endsBefore_nil _) called
  rwa [List.append_nil, Token.names, List.append_nil] at hnames

theorem namesArgs_eq_flatMap (called : Bool) (args : List Expr) :
    namesArgs called args = args.flatMap (names called) := by
  induction args with
  | nil => rfl
  | cons e rest ih => rw [namesArgs, ih, List.flatMap_cons]

mutual

/-- The letters of an expression are those of its variables, in the order of the text. -/
theorem nameLetters_eq_flatMap (e : Expr) :
    e.nameLetters = (e.names false).flatMap String.toList := by
  cases e with
  | int n => rfl
  | var name => simp [nameLetters, names]
  | unary op e => exact nameLetters_eq_flatMap e
  | binary op l r =>
      rw [nameLetters, names, nameLetters_eq_flatMap l, nameLetters_eq_flatMap r,
        List.flatMap_append]
  | call f args => exact nameLettersArgs_eq_flatMap args

theorem nameLettersArgs_eq_flatMap (args : List Expr) :
    nameLettersArgs args = (namesArgs false args).flatMap String.toList := by
  cases args with
  | nil => rfl
  | cons e rest =>
      rw [nameLettersArgs, namesArgs, nameLetters_eq_flatMap e, nameLettersArgs_eq_flatMap rest,
        List.flatMap_append]

end

theorem mem_letters_iff_names : c ∈ e.letters ↔ ∃ name ∈ e.names false, c ∈ name.toList := by
  rw [letters, LetterSet.mem_ofList, nameLetters_eq_flatMap, List.mem_flatMap]

/-- Only functions are called. -/
theorem exists_builtin_of_mem_names {name : String} (h : name ∈ e.names true) :
    ∃ f : Builtin, name = f.name := by
  induction e with
  | int n => cases h
  | var other => cases h
  | unary op e ih => exact ih h
  | binary op l r ihl ihr =>
      rcases List.mem_append.1 h with h | h
      · exact ihl h
      · exact ihr h
  | call f args ih =>
      rcases List.mem_append.1 h with h | h
      · exact ⟨f, List.mem_singleton.1 h⟩
      · rw [namesArgs_eq_flatMap] at h
        obtain ⟨e, he, h⟩ := List.mem_flatMap.1 h
        exact ih e he h

/-- A letter belongs to an expression exactly if a name in its text that is not called has it. -/
theorem mem_letters_iff_of_parse {source : String} {tokens : List Token} (h : parse source = .ok e)
    (hscan : Token.scan source.toList = .ok tokens) :
    c ∈ e.letters ↔ ∃ before name after, tokens = before ++ .name name :: after ∧
      after.head? ≠ some .leftParen ∧ c ∈ name.toList := by
  rw [mem_letters_iff_names, ← names_of_parse h hscan]
  simp only [Token.mem_names, Token.opens, beq_eq_false_iff_ne]
  constructor
  · rintro ⟨name, ⟨before, after, htokens, hopens⟩, hc⟩
    exact ⟨before, name, after, htokens, hopens, hc⟩
  · rintro ⟨before, name, after, htokens, hopens, hc⟩
    exact ⟨name, ⟨before, after, htokens, hopens⟩, hc⟩

theorem exists_builtin_of_parse {source : String} {tokens before after : List Token} {name : String}
    (h : parse source = .ok e) (hscan : Token.scan source.toList = .ok tokens)
    (htokens : tokens = before ++ .name name :: .leftParen :: after) :
    ∃ f : Builtin, name = f.name := by
  refine exists_builtin_of_mem_names (e := e) ?_
  rw [← names_of_parse h hscan]
  exact Token.mem_names.2 ⟨before, .leftParen :: after, htokens, rfl⟩

end Expr

end ShapeAssert
