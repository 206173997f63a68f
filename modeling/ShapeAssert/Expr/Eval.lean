import ShapeAssert.Expr.Parser

/-! The value of an expression. Operands are evaluated from left to right before their operation,
and every intermediate value has to be in range. -/

namespace ShapeAssert

/-- A binding of letters to values. -/
abbrev Binding := Char → Option Int

/-- Why an expression has no value. -/
inductive EvalFault where
  | undefined (name : String)
  | overflow
  | miscalled (f : Builtin) (count : Nat)
  deriving DecidableEq

/-- The error of an expression without value, which quotes a text for the expression. -/
def EvalFault.toError (source : String) : EvalFault → Error
  | undefined name => .undefinedVariable source name
  | overflow => .arithmeticOverflow source
  | miscalled f count => .invalidExpression source (.miscalled f.name count)

/-- The value itself if an expression may have it. -/
def checked (n : Int) : Except EvalFault Int :=
  if InRange n then .ok n else .error .overflow

def BinaryOp.apply : BinaryOp → Int → Int → Int
  | add, x, y => x + y
  | sub, x, y => x - y
  | mul, x, y => x * y

/-- The value of a function at its arguments. A call that was read has as many as the function
accepts. -/
def Builtin.apply (f : Builtin) (args : List Int) : Except EvalFault Int :=
  match f, args with
  | min, _ => args.min?.elim (.error (.miscalled min args.length)) .ok
  | max, _ => args.max?.elim (.error (.miscalled max args.length)) .ok
  | abs, [x] => checked x.natAbs
  | abs, _ => .error (.miscalled abs args.length)

namespace Expr

/-- Variables are single letters, so a longer name is never bound. -/
def lookup (binding : Binding) (name : String) : Except EvalFault Int :=
  match name.toList with
  | [letter] => (binding letter).elim (.error (.undefined name)) .ok
  | _ => .error (.undefined name)

mutual

def eval (binding : Binding) : Expr → Except EvalFault Int
  | int n => .ok n
  | var name => lookup binding name
  | unary .pos e => e.eval binding
  | unary .neg e => do
      let x ← e.eval binding
      checked (-x)
  | binary op l r => do
      let x ← l.eval binding
      let y ← r.eval binding
      checked (op.apply x y)
  | call f args => do
      let xs ← evalArgs binding args
      f.apply xs

def evalArgs (binding : Binding) : List Expr → Except EvalFault (List Int)
  | [] => .ok []
  | e :: rest => do
      let x ← e.eval binding
      let xs ← evalArgs binding rest
      .ok (x :: xs)

end

/-- The value under a binding, errors quoting the given source. -/
def evalQuoting (e : Expr) (source : String) (binding : Binding) : Except Error Int :=
  (e.eval binding).mapError (·.toError source)

/-- The value under a binding, errors quoting the text of the tree. -/
def value (e : Expr) (binding : Binding) : Except Error Int :=
  e.evalQuoting e.text binding

/-- Reads a source and evaluates it, errors quoting the source. -/
def evaluate (source : String) (binding : Binding) : Except Error Int := do
  let e ← parse source
  e.evalQuoting source binding

end Expr

end ShapeAssert
