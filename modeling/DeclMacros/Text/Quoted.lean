import DeclMacros.Text.Printable

/-! # Quoted text

    Two ways to write a text between double quotes.  `debugQuoted` is the form used in
    messages and in the display of values.  `literalQuoted` is the form of a generated
    string literal; it differs in how a NUL before an octal digit is written, so that
    the literal cannot be misread as an octal escape. -/

set_option autoImplicit false

namespace DeclMacros.Text

/-- The escape by code point, in lower-case hexadecimal without leading zeros. -/
def unicodeEscape (c : Char) : List Char :=
  ['\\', 'u', '\x7b'] ++ Nat.toDigits 16 c.toNat ++ ['\x7d']

/-- One character inside double quotes: the short escapes, else the character itself when it is
    printable and stands alone, else its code point. -/
def escapeChar (c : Char) : List Char :=
  if c = '\x00' then ['\\', '0']
  else if c = '\t' then ['\\', 't']
  else if c = '\r' then ['\\', 'r']
  else if c = '\n' then ['\\', 'n']
  else if c = '\\' then ['\\', '\\']
  else if c = '"' then ['\\', '"']
  else if isGraphemeExtend c then unicodeEscape c
  else if isPrintable c then [c]
  else unicodeEscape c

/-- The text between double quotes, each character escaped on its own. -/
def debugQuoted (s : String) : String :=
  String.ofList ('"' :: s.toList.flatMap escapeChar ++ ['"'])

/-- The digits that would extend an octal escape. -/
def isOctalDigit (c : Char) : Bool :=
  '0' ≤ c && c ≤ '7'

/-- Escapes for a string literal: a NUL before an octal digit is written with two hexadecimal
    digits. -/
def escapeLiteral : List Char → List Char
  | [] => []
  | c :: cs =>
    let written :=
      if c = '\x00' && (cs.head?.map isOctalDigit).getD false then ['\\', 'x', '0', '0']
      else escapeChar c
    written ++ escapeLiteral cs

/-- A string literal that denotes the text. -/
def literalQuoted (s : String) : String :=
  String.ofList ('"' :: escapeLiteral s.toList ++ ['"'])

end DeclMacros.Text
