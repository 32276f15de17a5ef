import DeclMacros.Token.Lexeme

/-! # Literals

    Tokens keep literals as they are written.  Here a literal is classified by its
    first characters, and the value of a string literal and of an integer is computed
    from its text. -/

set_option autoImplicit false

namespace DeclMacros.Literal

open DeclMacros.Lexeme

/-! ## String literals -/

/-- The number denoted by two hexadecimal digits. -/
def hexPair (a b : Char) : Nat :=
  (hexDigit? a).getD 0 * 16 + (hexDigit? b).getD 0

/-- The character denoted by a one-letter escape. -/
def simpleEscape : Char → Char
  | 'n' => '\n'
  | 'r' => '\r'
  | 't' => '\t'
  | '0' => '\x00'
  | c => c

/-- The text denoted by the body of an escaped literal, up to its closing quote.  `fuel` bounds the
    length of the body. -/
def unescape : Nat → List Char → List Char
  | 0, _ => []
  | _ + 1, [] => []
  | fuel + 1, c :: cs =>
    if c = '"' then []
    else if c = '\r' then '\n' :: unescape fuel (cs.drop 1)
    else if c = '\\' then
      match cs with
      | 'x' :: a :: b :: rest => Char.ofNat (hexPair a b) :: unescape fuel rest
      | 'u' :: rest =>
        match codePoint? rest with
        | some (value, tail) => Char.ofNat value :: unescape fuel tail
        | none => []
      | e :: rest =>
        if e = '\n' || e = '\r' then
          unescape fuel (rest.dropWhile fun b => b = ' ' || b = '\t' || b = '\n' || b = '\r')
        else simpleEscape e :: unescape fuel rest
      | [] => []
    else c :: unescape fuel cs

/-- The text between the first quote of a raw literal and its last. -/
def rawText (cs : List Char) : List Char :=
  let body := (cs.dropWhile (· ≠ '"')).drop 1
  ((body.reverse.dropWhile (· ≠ '"')).drop 1).reverse

/-! ## Integers -/

/-- The base of an integer literal and the text after its mark. -/
def baseOf (cs : List Char) : Nat × List Char :=
  match cs with
  | '0' :: 'x' :: rest => (16, rest)
  | '0' :: 'o' :: rest => (8, rest)
  | '0' :: 'b' :: rest => (2, rest)
  | _ => (10, cs)

/-- After an exponent letter: whether the text makes the number a float. -/
def exponentFollows (digit : Bool) : List Char → Bool
  | [] => digit
  | c :: cs =>
    if c = '_' then exponentFollows digit cs
    else if c = '-' || c = '+' then true
    else if isDigit c then exponentFollows true cs
    else digit

/-- The value of an integer literal and its suffix; `none` for a float. -/
def integerFrom? (base value : Nat) : List Char → Option (Nat × List Char)
  | [] => some (value, [])
  | c :: cs =>
    if c = '_' then integerFrom? base value cs
    else if c = '.' && base = 10 then none
    else if (c = 'e' || c = 'E') && base = 10 then
      if exponentFollows false cs then none else some (value, c :: cs)
    else
      match hexDigit? c with
      | some d => if d < base then integerFrom? base (value * base + d) cs else some (value, c :: cs)
      | none => some (value, c :: cs)

/-- The value of an integer literal and its suffix; `none` for a float. -/
def integer? (cs : List Char) : Option (Nat × List Char) :=
  let (base, digits) := baseOf cs
  integerFrom? base 0 digits

end DeclMacros.Literal

namespace DeclMacros

/-- The kinds of literal. -/
inductive Literal where
  /-- A string, with the text that it denotes. -/
  | text (value : String)
  /-- A byte string, a byte or a character. -/
  | bytes
  | byte
  | character
  /-- An integer, with its value and suffix. -/
  | integer (value : Nat) (suffix : String)
  | float
  /-- None of these. -/
  | unknown
deriving DecidableEq, Repr

/-- The kind of a literal token. -/
def Literal.ofText (text : String) : Literal :=
  let cs := text.toList
  match cs with
  | '"' :: body => .text (String.ofList (Literal.unescape (body.length + 1) body))
  | 'r' :: _ => .text (String.ofList (Literal.rawText cs))
  | 'b' :: '"' :: _ => .bytes
  | 'b' :: 'r' :: _ => .bytes
  | 'b' :: '\'' :: _ => .byte
  | '\'' :: _ => .character
  | c :: _ =>
    if Lexeme.isDigit c then
      match Literal.integer? cs with
      | some (value, suffix) => .integer value (String.ofList suffix)
      | none => .float
    else .unknown
  | [] => .unknown

end DeclMacros
