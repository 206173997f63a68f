import ShapeAssert.Expr.Basic

/-! The nodes of an expression in the order in which they are evaluated: operands from left to right,
and then their operation. -/

namespace ShapeAssert

namespace Expr

mutual

/-- The expression and all expressions in it, operands before their operation. -/
def nodes : Expr → List Expr
  | int n => [.int n]
  | var name => [.var name]
  | unary op e => e.nodes ++ [.unary op e]
  | binary op l r => l.nodes ++ (r.nodes ++ [.binary op l r])
  | call f args => nodesArgs args ++ [.call f args]

def nodesArgs : List Expr → List Expr
  | [] => []
  | e :: rest => e.nodes ++ nodesArgs rest

end

theorem nodesArgs_eq_flatMap (args : List Expr) : nodesArgs args = args.flatMap nodes := by
  induction args with
  | nil => rfl
  | cons e rest ih => rw [nodesArgs, ih, List.flatMap_cons]

theorem self_mem_nodes (e : Expr) : e ∈ e.nodes := by
  cases e <;> simp [nodes]

mutual

/-- The letters of an expression are those of the variable names in it. -/
theorem mem_nameLetters {c : Char} (e : Expr) :
    c ∈ e.nameLetters ↔ ∃ name, .var name ∈ e.nodes ∧ c ∈ name.toList := by
  cases e with
  | int n => simp [nameLetters, nodes]
  | var name => simp [nameLetters, nodes]
  | unary op e => simp [nameLetters, nodes, mem_nameLetters e]
  | binary op l r =>
      simp [nameLetters, nodes, mem_nameLetters l, mem_nameLetters r, or_and_right, exists_or]
  | call f args => simp [nameLetters, nodes, mem_nameLettersArgs args]

theorem mem_nameLettersArgs {c : Char} (args : List Expr) :
    c ∈ nameLettersArgs args ↔ ∃ name, .var name ∈ nodesArgs args ∧ c ∈ name.toList := by
  cases args with
  | nil => simp [nameLettersArgs, nodesArgs]
  | cons e rest =>
      simp [nameLettersArgs, nodesArgs, mem_nameLetters e, mem_nameLettersArgs rest, or_and_right,
        exists_or]

end

end Expr

end ShapeAssert
