import ShapeAssert.Error
import ShapeAssert.Expr.Basic

/-! Reading an expression from its tokens by recursive descent. Sums and differences bind least,
then products, then signs; operators of one level group to the left. Every reader returns the
tokens it leaves together with the bound on their number that makes the recursion end. A reader that
hands all its tokens on ranks above the one that it hands them to. -/

namespace ShapeAssert

/-- The operation of a sum or difference. -/
def Token.additive? : Token → Option BinaryOp
  | plus => some .add
  | minus => some .sub
  | _ => none

/-- The operation of a sign. -/
def Token.sign? : Token → Option UnaryOp
  | plus => some .pos
  | minus => some .neg
  | _ => none

namespace Expr

/-- Takes one given token. -/
def expect (token : Token) :
    (tokens : List Token) → Except SyntaxFault { rest : List Token // rest.length < tokens.length }
  | [] => .error (.missingToken token)
  | next :: rest => if next = token then .ok ⟨rest, by simp⟩ else .error (.unexpectedToken next)

mutual

/-- Reads a product and then the sums and differences that follow it. -/
def readSum (tokens : List Token) :
    Except SyntaxFault (Expr × { rest : List Token // rest.length < tokens.length }) :=
  match readProduct tokens with
  | .error fault => .error fault
  | .ok (first, ⟨rest, _⟩) =>
      match readTerms first rest with
      | .error fault => .error fault
      | .ok (e, ⟨rest', _⟩) => .ok (e, ⟨rest', by omega⟩)
termination_by 6 * tokens.length + 4

/-- Extends a sum for as long as a plus or minus follows. -/
def readTerms (left : Expr) (tokens : List Token) :
    Except SyntaxFault (Expr × { rest : List Token // rest.length ≤ tokens.length }) :=
  match tokens with
  | [] => .ok (left, ⟨[], Nat.le_refl _⟩)
  | token :: rest =>
      match token.additive? with
      | none => .ok (left, ⟨token :: rest, Nat.le_refl _⟩)
      | some op =>
          match readProduct rest with
          | .error fault => .error fault
          | .ok (right, ⟨rest', _⟩) =>
              match readTerms (.binary op left right) rest' with
              | .error fault => .error fault
              | .ok (e, ⟨rest'', _⟩) => .ok (e, ⟨rest'', by simp only [List.length_cons]; omega⟩)
termination_by 6 * tokens.length + 0

/-- Reads a signed operand and then the factors that follow it. -/
def readProduct (tokens : List Token) :
    Except SyntaxFault (Expr × { rest : List Token // rest.length < tokens.length }) :=
  match readSigned tokens with
  | .error fault => .error fault
  | .ok (first, ⟨rest, _⟩) =>
      match readFactors first rest with
      | .error fault => .error fault
      | .ok (e, ⟨rest', _⟩) => .ok (e, ⟨rest', by omega⟩)
termination_by 6 * tokens.length + 3

/-- Extends a product for as long as a star follows. -/
def readFactors (left : Expr) (tokens : List Token) :
    Except SyntaxFault (Expr × { rest : List Token // rest.length ≤ tokens.length }) :=
  match tokens with
  | .star :: rest =>
      match readSigned rest with
      | .error fault => .error fault
      | .ok (right, ⟨rest', _⟩) =>
          match readFactors (.binary .mul left right) rest' with
          | .error fault => .error fault
          | .ok (e, ⟨rest'', _⟩) => .ok (e, ⟨rest'', by simp only [List.length_cons]; omega⟩)
  | tokens => .ok (left, ⟨tokens, Nat.le_refl _⟩)
termination_by 6 * tokens.length + 0

/-- Reads an operand with any number of signs before it. -/
def readSigned (tokens : List Token) :
    Except SyntaxFault (Expr × { rest : List Token // rest.length < tokens.length }) :=
  match tokens with
  | [] => .error .unexpectedEnd
  | token :: rest =>
      match token.sign? with
      | none => readAtom (token :: rest)
      | some op =>
          match readSigned rest with
          | .error fault => .error fault
          | .ok (e, ⟨rest', _⟩) =>
              .ok (.unary op e, ⟨rest', by simp only [List.length_cons]; omega⟩)
termination_by 6 * tokens.length + 2

/-- Reads a number, a variable, a call or an expression in parentheses. A name is a function
exactly when a parenthesis follows it. -/
def readAtom (tokens : List Token) :
    Except SyntaxFault (Expr × { rest : List Token // rest.length < tokens.length }) :=
  match tokens with
  | [] => .error .unexpectedEnd
  | .int value :: rest => .ok (.int value, ⟨rest, by simp⟩)
  | .name name :: .leftParen :: rest =>
      match Builtin.ofName? name with
      | none => .error (.unknownFunction name)
      | some f =>
          match readArgs rest with
          | .error fault => .error fault
          | .ok (args, ⟨rest', _⟩) =>
              match expect .rightParen rest' with
              | .error fault => .error fault
              | .ok ⟨rest'', _⟩ =>
                  if f.accepts args.length then
                    .ok (.call f args, ⟨rest'', by simp only [List.length_cons]; omega⟩)
                  else .error (.wrongArity name args.length)
  | .name name :: rest => .ok (.var name, ⟨rest, by simp⟩)
  | .leftParen :: rest =>
      match readSum rest with
      | .error fault => .error fault
      | .ok (e, ⟨rest', _⟩) =>
          match expect .rightParen rest' with
          | .error fault => .error fault
          | .ok ⟨rest'', _⟩ => .ok (e, ⟨rest'', by simp only [List.length_cons]; omega⟩)
  | token :: _ => .error (.unexpectedToken token)
termination_by 6 * tokens.length + 1

/-- Reads one expression and then another for as long as a comma follows. -/
def readArgs (tokens : List Token) :
    Except SyntaxFault (List Expr × { rest : List Token // rest.length < tokens.length }) :=
  match readSum tokens with
  | .error fault => .error fault
  | .ok (e, ⟨[], h⟩) => .ok ([e], ⟨[], h⟩)
  | .ok (e, ⟨token :: rest, h⟩) =>
      if token = .comma then
        have : rest.length < tokens.length := Nat.lt_of_succ_lt h
        match readArgs rest with
        | .error fault => .error fault
        | .ok (args, ⟨rest', _⟩) => .ok (e :: args, ⟨rest', by omega⟩)
      else .ok ([e], ⟨token :: rest, h⟩)
termination_by 6 * tokens.length + 5

end

/-- Reads an expression that takes all the tokens. -/
def ofTokens (tokens : List Token) : Except SyntaxFault Expr :=
  match readSum tokens with
  | .error fault => .error fault
  | .ok (e, ⟨[], _⟩) => .ok e
  | .ok (_, ⟨token :: _, _⟩) => .error (.unexpectedToken token)

/-- Reads an expression from the characters of its source. -/
def ofChars (source : List Char) : Except SyntaxFault Expr :=
  Token.scan source >>= ofTokens

/-- Reads an expression. A fault is reported with the whole source. -/
def parse (source : String) : Except Error Expr :=
  (ofChars source.toList).mapError (.invalidExpression source)

end Expr

end ShapeAssert
