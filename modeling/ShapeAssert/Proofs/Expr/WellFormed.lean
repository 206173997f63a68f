import ShapeAssert.Proofs.Expr.Grammar
import ShapeAssert.Proofs.Expr.Tokens

/-! Trees that a text can stand for: their numbers are values, their names are made of letters, and
every call has as many arguments as its function accepts. Reading returns no other trees. -/

namespace ShapeAssert

/-- A tree that a text can stand for. -/
inductive Expr.WellFormed : Expr → Prop where
  | int {n : Nat} : n ≤ maxValue → WellFormed (.int n)
  | var {name : String} :
      name.toList ≠ [] → (∀ c ∈ name.toList, Text.isLetter c = true) → WellFormed (.var name)
  | unary {op : UnaryOp} {e : Expr} : WellFormed e → WellFormed (.unary op e)
  | binary {op : BinaryOp} {l r : Expr} : WellFormed l → WellFormed r → WellFormed (.binary op l r)
  | call {f : Builtin} {args : List Expr} :
      f.accepts args.length = true → (∀ e ∈ args, WellFormed e) → WellFormed (.call f args)

/-- The trees of a phrase. -/
def Phrase.trees : Phrase → List Expr
  | sum e | product e | signed e | atom e => [e]
  | terms rest | factors rest => rest.map (·.2)
  | args es => es

theorem Expr.WellFormed.chain {first : Expr} {rest : List (BinaryOp × Expr)}
    (hfirst : first.WellFormed) (hrest : ∀ e ∈ rest.map (·.2), e.WellFormed) :
    (first.chain rest).WellFormed := by
  induction rest generalizing first with
  | nil => exact hfirst
  | cons next rest ih =>
      obtain ⟨hnext, hrest⟩ := List.forall_mem_cons.1 hrest
      exact ih (.binary hfirst hnext) hrest

/-- Well-formed tokens make up phrases of well-formed trees. -/
theorem Derives.wellFormed {phrase : Phrase} {tokens : List Token} (h : Derives phrase tokens)
    (htokens : ∀ token ∈ tokens, token.WellFormed) : ∀ e ∈ phrase.trees, e.WellFormed := by
  induction h with
  | sum _ _ ihproduct ihterms =>
      obtain ⟨hts, hus⟩ := List.forall_mem_append.1 htokens
      exact List.forall_mem_singleton.2
        (.chain (ihproduct hts _ (by simp [Phrase.trees])) (ihterms hus))
  | product _ _ ihsigned ihfactors =>
      obtain ⟨hts, hus⟩ := List.forall_mem_append.1 htokens
      exact List.forall_mem_singleton.2
        (.chain (ihsigned hts _ (by simp [Phrase.trees])) (ihfactors hus))
  | noTerms => simp [Phrase.trees]
  | noFactors => simp [Phrase.trees]
  | added _ _ ihproduct ihterms =>
      obtain ⟨hts, hus⟩ := List.forall_mem_append.1 htokens
      exact List.forall_mem_cons.2
        ⟨ihproduct (List.forall_mem_cons.1 hts).2 _ (by simp [Phrase.trees]), ihterms hus⟩
  | subtracted _ _ ihproduct ihterms =>
      obtain ⟨hts, hus⟩ := List.forall_mem_append.1 htokens
      exact List.forall_mem_cons.2
        ⟨ihproduct (List.forall_mem_cons.1 hts).2 _ (by simp [Phrase.trees]), ihterms hus⟩
  | multiplied _ _ ihsigned ihfactors =>
      obtain ⟨hts, hus⟩ := List.forall_mem_append.1 htokens
      exact List.forall_mem_cons.2
        ⟨ihsigned (List.forall_mem_cons.1 hts).2 _ (by simp [Phrase.trees]), ihfactors hus⟩
  | positive _ ih =>
      have hts := (List.forall_mem_cons.1 htokens).2
      exact List.forall_mem_singleton.2 (.unary (ih hts _ (by simp [Phrase.trees])))
  | negative _ ih =>
      have hts := (List.forall_mem_cons.1 htokens).2
      exact List.forall_mem_singleton.2 (.unary (ih hts _ (by simp [Phrase.trees])))
  | unsigned _ ih => exact ih htokens
  | number n => exact List.forall_mem_singleton.2 (.int (htokens _ List.mem_cons_self))
  | named letters =>
      obtain ⟨hne, hletters⟩ := htokens _ List.mem_cons_self
      exact List.forall_mem_singleton.2 (.var hne hletters)
  | call hcall _ ih =>
      have hts := (List.forall_mem_cons.1 (List.forall_mem_cons.1
        (List.forall_mem_append.1 htokens).1).2).2
      exact List.forall_mem_singleton.2 (.call (mayCall_iff.1 hcall).2 (ih hts))
  | parentheses _ ih =>
      exact ih (List.forall_mem_cons.1 (List.forall_mem_append.1 htokens).1).2
  | lastArg _ ih => exact ih htokens
  | moreArgs _ _ ihsum ihargs =>
      obtain ⟨hts, hus⟩ := List.forall_mem_append.1 htokens
      exact List.forall_mem_cons.2
        ⟨ihsum hts _ (by simp [Phrase.trees]), ihargs (List.forall_mem_cons.1 hus).2⟩

theorem Expr.wellFormed_of_parse {source : String} {e : Expr} (h : parse source = .ok e) :
    e.WellFormed := by
  obtain ⟨tokens, hscan, hderives⟩ := parse_eq_ok_iff.1 h
  exact hderives.wellFormed (Token.wellFormed_of_scan hscan) e (by simp [Phrase.trees])

end ShapeAssert
