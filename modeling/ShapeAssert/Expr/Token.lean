import ShapeAssert.Bounds
import ShapeAssert.Decimal.Digits
import ShapeAssert.Text.Alphabetic
import ShapeAssert.Text.WhiteSpace

/-! The tokens of an expression and how a text is cut into them. Digits form a number and letters a
name for as long as they last; white space only separates. -/

namespace ShapeAssert

inductive Token where
  | int (value : Nat)
  | name (letters : String)
  | plus
  | minus
  | star
  | leftParen
  | rightParen
  | comma
  deriving DecidableEq

namespace Token

/-- The text of a token, which is the text it is cut from except for leading zeros. -/
def text : Token → String
  | int value => String.ofList (Decimal.digits value)
  | name letters => letters
  | plus => "+"
  | minus => "-"
  | star => "*"
  | leftParen => "("
  | rightParen => ")"
  | comma => ","

/-- The tokens of a single character. -/
def symbol? : Char → Option Token
  | '+' => some plus
  | '-' => some minus
  | '*' => some star
  | '(' => some leftParen
  | ')' => some rightParen
  | ',' => some comma
  | _ => none

end Token

/-- What is wrong with an expression. -/
inductive SyntaxFault where
  | literalTooLarge (literal : String)
  | unsupportedCharacter (character : Char)
  | unexpectedToken (token : Token)
  | unexpectedEnd
  | missingToken (token : Token)
  | unknownFunction (name : String)
  | wrongArity (name : String) (count : Nat)
  | miscalled (name : String) (count : Nat)
  deriving DecidableEq

def SyntaxFault.message : SyntaxFault → String
  | literalTooLarge literal => s!"integer literal {literal} is too large"
  | unsupportedCharacter character => s!"unsupported character '{character}'"
  | unexpectedToken token => s!"unexpected token '{token.text}'"
  | unexpectedEnd => "unexpected end of expression"
  | missingToken token => s!"expected '{token.text}' but reached the end"
  | unknownFunction name => s!"function '{name}' is not allowed"
  | wrongArity name count => s!"function '{name}' does not accept {count} argument(s)"
  | miscalled name count => s!"function '{name}' called with {count} argument(s)"

/-- Cuts a text into tokens. The first run of digits too large for a value, or the first character
that starts no token, is a fault. -/
def Token.scan : List Char → Except SyntaxFault (List Token)
  | [] => .ok []
  | c :: rest =>
      if Text.isSpace c then scan rest
      else if c.isDigit then
        let run := c :: rest.takeWhile Char.isDigit
        if Decimal.value run ≤ maxValue then
          (scan (rest.dropWhile Char.isDigit)).map (int (Decimal.value run) :: ·)
        else .error (.literalTooLarge (String.ofList run))
      else if Text.isLetter c then
        let run := c :: rest.takeWhile Text.isLetter
        (scan (rest.dropWhile Text.isLetter)).map (name (String.ofList run) :: ·)
      else
        match symbol? c with
        | some token => (scan rest).map (token :: ·)
        | none => .error (.unsupportedCharacter c)
termination_by text => text.length
decreasing_by
  all_goals
    have := (List.dropWhile_sublist Char.isDigit (l := rest)).length_le
    have := (List.dropWhile_sublist Text.isLetter (l := rest)).length_le
    simp only [List.length_cons]
    omega

end ShapeAssert
