import ShapeAssert.Letters

/-! Arithmetic expressions over dimension letters: their trees, their text and the letters they
refer to. The text puts every sum, difference and product in parentheses, so it needs no rule of
precedence to be read back. -/

namespace ShapeAssert

/-- The functions an expression may call. -/
inductive Builtin where
  | min
  | max
  | abs
  deriving DecidableEq

namespace Builtin

def name : Builtin → String
  | min => "min"
  | max => "max"
  | abs => "abs"

def ofName? (name : String) : Option Builtin :=
  if name = min.name then some min
  else if name = max.name then some max
  else if name = abs.name then some abs
  else none

/-- The least and the greatest take two arguments or more, the absolute value takes one. -/
def accepts (f : Builtin) (arity : Nat) : Bool :=
  match f with
  | min | max => 2 ≤ arity
  | abs => arity == 1

theorem ofName?_eq_some {name : String} {f : Builtin} : ofName? name = some f ↔ name = f.name := by
  constructor
  · grind [ofName?]
  · rintro rfl
    cases f <;> decide

end Builtin

inductive UnaryOp where
  | pos
  | neg
  deriving DecidableEq

inductive BinaryOp where
  | add
  | sub
  | mul
  deriving DecidableEq

def UnaryOp.symbol : UnaryOp → Char
  | pos => '+'
  | neg => '-'

def BinaryOp.symbol : BinaryOp → Char
  | add => '+'
  | sub => '-'
  | mul => '*'

/-- An expression tree. Parentheses of the source leave no node. -/
inductive Expr where
  | int (value : Nat)
  | var (name : String)
  | unary (op : UnaryOp) (operand : Expr)
  | binary (op : BinaryOp) (left right : Expr)
  | call (f : Builtin) (args : List Expr)

namespace Expr

instance : Inhabited Expr := ⟨.int 0⟩

mutual

/-- Whether two trees have the same nodes. -/
def same : Expr → Expr → Bool
  | int m, int n => m == n
  | var s, var t => s == t
  | unary op e, unary op' e' => op == op' && same e e'
  | binary op l r, binary op' l' r' => op == op' && same l l' && same r r'
  | call f args, call f' args' => f == f' && sameArgs args args'
  | _, _ => false

def sameArgs : List Expr → List Expr → Bool
  | [], [] => true
  | e :: rest, e' :: rest' => same e e' && sameArgs rest rest'
  | _, _ => false

end

mutual

theorem same_iff (e e' : Expr) : same e e' = true ↔ e = e' := by
  cases e <;> cases e' <;> simp [same, same_iff, sameArgs_iff, and_assoc]

theorem sameArgs_iff (args args' : List Expr) : sameArgs args args' = true ↔ args = args' := by
  cases args <;> cases args' <;> simp [sameArgs, same_iff, sameArgs_iff]

end

instance : DecidableEq Expr :=
  fun e e' => decidable_of_iff (same e e' = true) (same_iff e e')

mutual

/-- The characters of an expression. Only operations on two operands are put in parentheses. -/
def render : Expr → List Char
  | int n => Nat.toDigits 10 n
  | var name => name.toList
  | unary op e => op.symbol :: e.render
  | binary op l r => '(' :: l.render ++ op.symbol :: r.render ++ [')']
  | call f args => f.name.toList ++ '(' :: renderArgs args ++ [')']

/-- Arguments with commas between them. -/
def renderArgs : List Expr → List Char
  | [] => []
  | [e] => e.render
  | e :: rest => e.render ++ ',' :: renderArgs rest

end

def text (e : Expr) : String :=
  String.ofList e.render

mutual

/-- The letters of the variable names, from left to right. Names of functions are not variables. -/
def nameLetters : Expr → List Char
  | int _ => []
  | var name => name.toList
  | unary _ e => e.nameLetters
  | binary _ l r => l.nameLetters ++ r.nameLetters
  | call _ args => nameLettersArgs args

def nameLettersArgs : List Expr → List Char
  | [] => []
  | e :: rest => e.nameLetters ++ nameLettersArgs rest

end

/-- The letters an expression refers to. -/
def letters (e : Expr) : LetterSet :=
  LetterSet.ofList e.nameLetters

end Expr

end ShapeAssert
