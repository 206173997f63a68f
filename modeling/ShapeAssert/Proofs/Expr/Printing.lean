import ShapeAssert.Expr.Eval
import ShapeAssert.Proofs.Expr.WellFormed

/-! The text of a tree reads back as the tree. Every operation on two operands is printed in
parentheses, so the tokens of the text are a phrase at the level of a signed operand, and no two of
them run into each other. -/

namespace ShapeAssert

def UnaryOp.token : UnaryOp → Token
  | pos => .plus
  | neg => .minus

def BinaryOp.token : BinaryOp → Token
  | add => .plus
  | sub => .minus
  | mul => .star

theorem UnaryOp.symbol_token (op : UnaryOp) : Token.symbol? op.symbol = some op.token := by
  cases op <;> rfl

theorem BinaryOp.symbol_token (op : BinaryOp) : Token.symbol? op.symbol = some op.token := by
  cases op <;> rfl

/-- The name of a function is made of letters. -/
theorem Builtin.scan_name (f : Builtin) : Token.scan f.name.toList = .ok [.name f.name] := by
  have hletters : f.name.toList.all Text.isLetter = true := by cases f <;> decide +kernel
  exact Token.scan_letters (by cases f <;> decide) (List.all_eq_true.1 hletters)

namespace Expr

mutual

/-- The tokens of the text of an expression. -/
def printed : Expr → List Token
  | int n => [.int n]
  | var name => [.name name]
  | unary op e => op.token :: e.printed
  | binary op l r => .leftParen :: (l.printed ++ op.token :: (r.printed ++ [.rightParen]))
  | call f args => .name f.name :: .leftParen :: (printedArgs args ++ [.rightParen])

def printedArgs : List Expr → List Token
  | [] => []
  | [e] => e.printed
  | e :: rest => e.printed ++ .comma :: printedArgs rest

end

/-! ### The text is cut into these tokens -/

theorem scan_renderArgs {args : List Expr}
    (h : ∀ e ∈ args, Token.scan e.render = .ok e.printed) :
    Token.scan (renderArgs args) = .ok (printedArgs args) := by
  match args, h with
  | [], _ => rw [renderArgs, printedArgs, Token.scan]
  | [e], h => exact h e List.mem_cons_self
  | e :: next :: rest, h =>
      obtain ⟨he, hrest⟩ := List.forall_mem_cons.1 h
      rw [renderArgs, printedArgs, Token.scan_append_symbol Token.symbol_comma, he,
        scan_renderArgs hrest]
      · rfl
      · simp
      · simp

theorem WellFormed.scan_render {e : Expr} (he : e.WellFormed) :
    Token.scan e.render = .ok e.printed := by
  induction he with
  | int hn => exact Token.scan_digits hn
  | var hne hletters => exact Token.scan_letters hne hletters
  | @unary op e _ ih =>
      rw [render, printed, Token.scan_symbol op.symbol_token, ih]
      rfl
  | @binary op l r _ _ ihl ihr =>
      rw [render, printed, List.cons_append, List.cons_append, List.append_assoc, List.cons_append,
        Token.scan_symbol Token.symbol_leftParen, Token.scan_append_symbol op.symbol_token,
        Token.scan_append_symbol Token.symbol_rightParen, ihl, ihr, Token.scan]
      rfl
  | @call f args _ _ ih =>
      rw [render, printed, List.append_assoc, List.cons_append,
        Token.scan_append_symbol Token.symbol_leftParen,
        Token.scan_append_symbol Token.symbol_rightParen, f.scan_name, scan_renderArgs ih,
        Token.scan]
      rfl

/-! ### These tokens are a phrase -/

theorem derives_sum_of_signed {e : Expr} {tokens : List Token} (h : Derives (.signed e) tokens) :
    Derives (.sum e) tokens := by
  have hproduct : Derives (.product e) (tokens ++ []) := .product h .noFactors
  have hsum : Derives (.sum e) ((tokens ++ []) ++ []) := .sum hproduct .noTerms
  rwa [List.append_nil, List.append_nil] at hsum

theorem derives_binary (op : BinaryOp) {l r : Expr} {ts us : List Token}
    (hl : Derives (.signed l) ts) (hr : Derives (.signed r) us) :
    Derives (.sum (.binary op l r)) (ts ++ op.token :: us) := by
  have hleft : Derives (.product l) (ts ++ []) := .product hl .noFactors
  have hright : Derives (.product r) (us ++ []) := .product hr .noFactors
  rw [List.append_nil] at hleft hright
  cases op with
  | add =>
      have hterms : Derives (.terms [(.add, r)]) (.plus :: us ++ []) := .added hright .noTerms
      rw [List.append_nil] at hterms
      exact .sum hleft hterms
  | sub =>
      have hterms : Derives (.terms [(.sub, r)]) (.minus :: us ++ []) := .subtracted hright .noTerms
      rw [List.append_nil] at hterms
      exact .sum hleft hterms
  | mul =>
      have hfactors : Derives (.factors [(.mul, r)]) (.star :: us ++ []) := .multiplied hr .noFactors
      rw [List.append_nil] at hfactors
      have hsum := Derives.sum (.product hl hfactors) .noTerms
      rwa [List.append_nil] at hsum

theorem derives_printedArgs {args : List Expr} (hne : args ≠ [])
    (h : ∀ e ∈ args, Derives (.signed e) e.printed) :
    Derives (.args args) (printedArgs args) := by
  match args, hne, h with
  | [e], _, h => exact .lastArg (derives_sum_of_signed (h e List.mem_cons_self))
  | e :: next :: rest, _, h =>
      obtain ⟨he, hrest⟩ := List.forall_mem_cons.1 h
      rw [printedArgs]
      · exact .moreArgs (derives_sum_of_signed he) (derives_printedArgs (by simp) hrest)
      · simp

theorem WellFormed.derives_printed {e : Expr} (he : e.WellFormed) :
    Derives (.signed e) e.printed := by
  induction he with
  | int _ => exact .unsigned (.number _)
  | var _ _ => exact .unsigned (.named _)
  | @unary op e _ ih =>
      cases op with
      | pos => exact .positive ih
      | neg => exact .negative ih
  | @binary op l r _ _ ihl ihr =>
      have hbinary := Derives.parentheses (derives_binary op ihl ihr)
      rw [List.cons_append, List.append_assoc, List.cons_append] at hbinary
      exact .unsigned hbinary
  | @call f args haccepts _ ih =>
      have hne : args ≠ [] := by
        rintro rfl
        cases f <;> simp [Builtin.accepts] at haccepts
      exact .unsigned (.call (mayCall_iff.2 ⟨rfl, haccepts⟩) (derives_printedArgs hne ih))

theorem WellFormed.parse_text {e : Expr} (he : e.WellFormed) : parse e.text = .ok e := by
  refine parse_eq_ok_iff.2 ⟨e.printed, ?_, derives_sum_of_signed he.derives_printed⟩
  rw [text, String.toList_ofList]
  exact he.scan_render

/-- The text of a tree that a text can stand for reads back as the tree, so reading it and evaluating
has the value of the tree, with the same errors. Every tree that was read is of this kind. -/
theorem parse_text_round_trip {e : Expr}
    (he : e.WellFormed ∨ ∃ source, parse source = .ok e) :
    parse e.text = .ok e ∧ ∀ binding, evaluate e.text binding = e.value binding := by
  have hparse : parse e.text = .ok e := by
    rcases he with he | ⟨source, hsource⟩
    · exact he.parse_text
    · exact (wellFormed_of_parse hsource).parse_text
  refine ⟨hparse, fun binding => ?_⟩
  rw [evaluate, hparse]
  rfl

/-- A sign before a product and a sign before an argument need no parentheses of their own. -/
theorem parse_text_with_signs :
    let product : Expr := .binary .mul (.var "a") (.int 2)
    let call : Expr := .call .max [.var "b", .unary .pos (.int 7)]
    let e : Expr := .binary .sub (.unary .neg product) call
    e.WellFormed ∧ e.text = "(-(a*2)-max(b,+7))" ∧ parse e.text = .ok e ∧
      ∀ binding, evaluate e.text binding = e.value binding := by
  intro product call e
  have ha : (var "a").WellFormed := .var (by decide) (List.all_eq_true.1 rfl)
  have hb : (var "b").WellFormed := .var (by decide) (List.all_eq_true.1 rfl)
  have hproduct : product.WellFormed := .binary ha (.int (by decide))
  have hcall : call.WellFormed := by
    refine .call rfl (List.forall_mem_cons.2 ⟨hb, ?_⟩)
    exact List.forall_mem_singleton.2 (.unary (.int (by decide)))
  have he : e.WellFormed := .binary (.unary hproduct) hcall
  exact ⟨he, by cbv, parse_text_round_trip (.inl he)⟩

end Expr

end ShapeAssert
