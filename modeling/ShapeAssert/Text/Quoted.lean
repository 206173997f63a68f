import ShapeAssert.Text.GraphemeExtend
import ShapeAssert.Text.Printable

/-! Quoted text: a text between double quotes in which every character that would not show as
itself is escaped. A single quote stands as it is. -/

namespace ShapeAssert.Text

/-- The number of a character in lower-case hexadecimal between braces, after a backslash and
the letter u. -/
def escapeCode (c : Char) : List Char :=
  ['\\', 'u', '\x7b'] ++ Nat.toDigits 16 c.toNat ++ ['\x7d']

/-- The characters that stand for one character inside quotes. -/
def escape (c : Char) : List Char :=
  if c = '\x00' then ['\\', '0']
  else if c = '\t' then ['\\', 't']
  else if c = '\r' then ['\\', 'r']
  else if c = '\n' then ['\\', 'n']
  else if c = '\\' ∨ c = '"' then ['\\', c]
  else if isCombining c || !isPrintable c then escapeCode c
  else [c]

/-- The text between double quotes, character by character. -/
def quote (text : String) : String :=
  String.ofList ('"' :: text.toList.flatMap escape ++ ['"'])

end ShapeAssert.Text
