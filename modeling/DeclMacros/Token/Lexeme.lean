import DeclMacros.Text.Identifier

/-! # Lexemes

    Recognisers for the tokens that are not groups.  Each takes the text from the
    first character of the token on and gives back the text after it, or `none` when
    no such token stands there. -/

set_option autoImplicit false

namespace DeclMacros.Lexeme

open DeclMacros.Text

/-- The text after an expected start. -/
def after? (start : String) (cs : List Char) : Option (List Char) :=
  let expected := start.toList
  if expected.isPrefixOf cs then some (cs.drop expected.length) else none

/-- The text begins like this. -/
def startsWith (start : String) (cs : List Char) : Bool :=
  start.toList.isPrefixOf cs

/-! ## Identifiers -/

/-- An identifier without a raw marker: its characters and what follows it. -/
def identifier? : List Char → Option (List Char × List Char)
  | [] => none
  | c :: cs =>
    if isIdentStart c then some (c :: cs.takeWhile isXidContinue, cs.dropWhile isXidContinue)
    else none

/-- Names that cannot be written raw. -/
def unrawable : List String := ["_", "super", "self", "Self", "crate"]

/-- An identifier, raw or not: the raw flag, its characters, and what follows it. -/
def anyIdentifier? (cs : List Char) : Option (Bool × List Char × List Char) :=
  match after? "r#" cs with
  | some rest =>
    match identifier? rest with
    | some (name, tail) =>
      if unrawable.contains (String.ofList name) then none else some (true, name, tail)
    | none => none
  | none => (identifier? cs).map fun (name, tail) => (false, name, tail)

/-- The starts of quoted literals, which no identifier may shadow. -/
def quotedStarts : List String :=
  ["r\"", "r#\"", "r##", "b\"", "b'", "br\"", "br#", "c\"", "cr\"", "cr#"]

/-- An identifier that does not look like the start of a quoted literal. -/
def word? (cs : List Char) : Option (Bool × List Char × List Char) :=
  if quotedStarts.any (startsWith · cs) then none else anyIdentifier? cs

/-- A literal may carry an identifier as its suffix. -/
def skipSuffix (cs : List Char) : List Char :=
  match identifier? cs with
  | some (_, rest) => rest
  | none => cs

/-! ## Escapes -/

/-- The value of a hexadecimal digit. -/
def hexDigit? (c : Char) : Option Nat :=
  if '0' ≤ c && c ≤ '9' then some (c.toNat - '0'.toNat)
  else if 'a' ≤ c && c ≤ 'f' then some (c.toNat - 'a'.toNat + 10)
  else if 'A' ≤ c && c ≤ 'F' then some (c.toNat - 'A'.toNat + 10)
  else none

/-- The number is the code point of a character. -/
def isScalar (n : Nat) : Bool :=
  n < 0xd800 || (0xe000 ≤ n && n < 0x110000)

/-- The digits and the closing brace of an escape by code point: one to six hexadecimal digits,
    underscores allowed after the first. -/
def codePointDigits? (value digits : Nat) : List Char → Option (Nat × List Char)
  | [] => none
  | c :: cs =>
    match hexDigit? c with
    | some d => if digits = 6 then none else codePointDigits? (value * 16 + d) (digits + 1) cs
    | none =>
      if digits = 0 then none
      else if c = '_' then codePointDigits? value digits cs
      else if c = '\x7d' && isScalar value then some (value, cs)
      else none

/-- The part of an escape by code point that follows the letter `u`. -/
def codePoint? : List Char → Option (Nat × List Char)
  | '\x7b' :: cs => codePointDigits? 0 0 cs
  | _ => none

/-- What may follow a backslash in a text or character literal. -/
def textEscape? : List Char → Option (List Char)
  | 'x' :: a :: b :: cs => if isOctal a && (hexDigit? b).isSome then some cs else none
  | 'u' :: cs => (codePoint? cs).map (·.2)
  | c :: cs => if ['n', 'r', 't', '\\', '\'', '"', '0'].contains c then some cs else none
  | [] => none
where
  /-- The first digit of a two-digit escape keeps the value in ASCII. -/
  isOctal (c : Char) : Bool := '0' ≤ c && c ≤ '7'

/-- What may follow a backslash in a byte or byte string literal. -/
def byteEscape? : List Char → Option (List Char)
  | 'x' :: a :: b :: cs => if (hexDigit? a).isSome && (hexDigit? b).isSome then some cs else none
  | c :: cs => if ['n', 'r', 't', '\\', '0', '\'', '"'].contains c then some cs else none
  | [] => none

/-- What may follow a backslash in a nul-terminated string literal: nothing that denotes a nul. -/
def cTextEscape? : List Char → Option (List Char)
  | 'x' :: a :: b :: cs =>
    match hexDigit? a, hexDigit? b with
    | some x, some y => if x = 0 && y = 0 then none else some cs
    | _, _ => none
  | 'u' :: cs =>
    match codePoint? cs with
    | some (value, rest) => if value = 0 then none else some rest
    | none => none
  | c :: cs => if ['n', 'r', 't', '\\', '\'', '"'].contains c then some cs else none
  | [] => none

/-- The blanks skipped after a backslash at the end of a line.  A carriage return must be followed
    by a line feed, and the literal must go on. -/
def lineContinuation? : Bool → List Char → Option (List Char)
  | true, '\n' :: cs => lineContinuation? false cs
  | true, _ => none
  | false, [] => none
  | false, c :: cs =>
    if c = '\r' then lineContinuation? true cs
    else if c = ' ' || c = '\t' || c = '\n' then lineContinuation? false cs
    else some (c :: cs)

/-! ## Quoted literals -/

/-- The text after the closing quote of an escaped literal; `fuel` bounds its length. -/
def quotedBody? (escape : List Char → Option (List Char)) (plain : Char → Bool) :
    Nat → List Char → Option (List Char)
  | 0, _ => none
  | _ + 1, [] => none
  | fuel + 1, c :: cs =>
    if c = '"' then some (skipSuffix cs)
    else if c = '\r' then
      match cs with
      | '\n' :: rest => quotedBody? escape plain fuel rest
      | _ => none
    else if c = '\\' then
      match cs with
      | '\n' :: rest => (lineContinuation? false rest).bind (quotedBody? escape plain fuel)
      | '\r' :: rest => (lineContinuation? true rest).bind (quotedBody? escape plain fuel)
      | _ => (escape cs).bind (quotedBody? escape plain fuel)
    else if plain c then quotedBody? escape plain fuel cs
    else none

/-- An escaped literal, from after its opening quote. -/
def quoted? (escape : List Char → Option (List Char)) (plain : Char → Bool) (cs : List Char) :
    Option (List Char) :=
  quotedBody? escape plain (cs.length + 1) cs

/-- The text after the closing quote and hashes of a raw literal. -/
def rawBody? (plain : Char → Bool) (hashes : Nat) : List Char → Option (List Char)
  | [] => none
  | '"' :: cs =>
    if (List.replicate hashes '#').isPrefixOf cs then some (skipSuffix (cs.drop hashes))
    else rawBody? plain hashes cs
  | '\r' :: '\n' :: cs => rawBody? plain hashes cs
  | c :: cs => if c ≠ '\r' && plain c then rawBody? plain hashes cs else none

/-- A raw literal, from after its letters: at most 255 hashes, a quote, and the body. -/
def raw? (plain : Char → Bool) (cs : List Char) : Option (List Char) :=
  let hashes := (cs.takeWhile (· = '#')).length
  match cs.drop hashes with
  | '"' :: body => if hashes ≤ 255 then rawBody? plain hashes body else none
  | _ => none

/-- ASCII, the only characters in byte literals. -/
def isAscii (c : Char) : Bool := c.toNat < 0x80

/-- A string literal, plain, of bytes or nul-terminated, escaped or raw. -/
def string? (cs : List Char) : Option (List Char) :=
  ((after? "\"" cs).bind (quoted? textEscape? fun _ => true))
  <|> ((after? "r" cs).bind (raw? fun _ => true))
  <|> ((after? "b\"" cs).bind (quoted? byteEscape? isAscii))
  <|> ((after? "br" cs).bind (raw? isAscii))
  <|> ((after? "c\"" cs).bind (quoted? cTextEscape? (· ≠ '\x00')))
  <|> ((after? "cr" cs).bind (raw? (· ≠ '\x00')))

/-- The closing quote of a character or byte literal. -/
def closeQuote? : List Char → Option (List Char)
  | '\'' :: cs => some (skipSuffix cs)
  | _ => none

/-- A character literal. -/
def character? (cs : List Char) : Option (List Char) :=
  match after? "'" cs with
  | some ('\\' :: rest) => (textEscape? rest).bind closeQuote?
  | some (_ :: rest) => closeQuote? rest
  | _ => none

/-- A byte literal. -/
def byte? (cs : List Char) : Option (List Char) :=
  match after? "b'" cs with
  | some ('\\' :: rest) => (byteEscape? rest).bind closeQuote?
  | some (c :: rest) => if isAscii c then closeQuote? rest else none
  | _ => none

/-! ## Numbers -/

/-- An ASCII digit. -/
def isDigit (c : Char) : Bool := '0' ≤ c && c ≤ '9'

/-- How the digits before an exponent end. -/
inductive Mantissa where
  /-- A dot that belongs to what follows the number. -/
  | rejected
  /-- No exponent: whether there was a dot, and what follows. -/
  | plain (dot : Bool) (rest : List Char)
  /-- An exponent letter: whether there was a dot before it, the text from the letter on. -/
  | exponent (dot : Bool) (letter : Char) (rest : List Char)

/-- Digits, underscores and at most one dot.  The dot may not be followed by another dot or by an
    identifier. -/
def mantissa (dot : Bool) : List Char → Mantissa
  | [] => .plain dot []
  | c :: cs =>
    if isDigit c || c = '_' then mantissa dot cs
    else if c = '.' then
      if dot then .plain dot (c :: cs)
      else if (cs.head?.map fun n => n = '.' || isIdentStart n).getD false then .rejected
      else mantissa true cs
    else if c = 'e' || c = 'E' then .exponent dot c cs
    else .plain dot (c :: cs)

/-- Sign and digits of an exponent; `none` when it has no digit. -/
def exponent? (sign digit : Bool) : List Char → Option (List Char)
  | [] => if digit then some [] else none
  | c :: cs =>
    if c = '+' || c = '-' then
      if digit then some (c :: cs) else if sign then none else exponent? true digit cs
    else if isDigit c then exponent? sign true cs
    else if c = '_' then exponent? sign digit cs
    else if digit then some (c :: cs)
    else none

/-- The digits of a number with a dot or an exponent. -/
def floatDigits? : List Char → Option (List Char)
  | [] => none
  | c :: cs =>
    if isDigit c then
      match mantissa false cs with
      | .rejected => none
      | .plain dot rest => if dot then some rest else none
      | .exponent dot letter rest =>
        match exponent? false false rest with
        | some tail => some tail
        | none => if dot then some (letter :: rest) else none
    else none

/-- The digits of an integer in the given base.  A decimal digit too large for the base is an error;
    a letter that is no digit starts the suffix. -/
def baseDigits? (base : Nat) (empty : Bool) : List Char → Option (List Char)
  | [] => if empty then none else some []
  | c :: cs =>
    if isDigit c then
      if c.toNat - '0'.toNat < base then baseDigits? base false cs else none
    else if c = '_' then
      if empty && base = 10 then none else baseDigits? base empty cs
    else
      match hexDigit? c with
      | some d =>
        if d < base then baseDigits? base false cs
        else if empty then none else some (c :: cs)
      | none => if empty then none else some (c :: cs)

/-- The digits of an integer with its base mark. -/
def intDigits? (cs : List Char) : Option (List Char) :=
  match after? "0x" cs, after? "0o" cs, after? "0b" cs with
  | some rest, _, _ => baseDigits? 16 true rest
  | _, some rest, _ => baseDigits? 8 true rest
  | _, _, some rest => baseDigits? 2 true rest
  | _, _, _ => baseDigits? 10 true cs

/-- A number may carry a suffix; after it no identifier character may follow. -/
def endNumber? (cs : List Char) : Option (List Char) :=
  match skipSuffix cs with
  | [] => some []
  | c :: rest => if isXidContinue c then none else some (c :: rest)

/-- A number. -/
def number? (cs : List Char) : Option (List Char) :=
  ((floatDigits? cs).bind endNumber?) <|> ((intDigits? cs).bind endNumber?)

/-- A literal: what follows it. -/
def literal? (cs : List Char) : Option (List Char) :=
  string? cs <|> byte? cs <|> character? cs <|> number? cs

/-! ## Punctuation -/

/-- The punctuation characters. -/
def punctuation : List Char := "~!@#$%^&*-=+|;:,<.>/?'".toList

/-- A punctuation character that does not start a comment. -/
def punctuation? : List Char → Option (Char × List Char)
  | [] => none
  | c :: cs =>
    if startsWith "//" (c :: cs) || startsWith "/*" (c :: cs) then none
    else if punctuation.contains c then some (c, cs)
    else none

/-- An apostrophe that starts a lifetime: an identifier follows, and after it neither another
    apostrophe nor a hash. -/
def startsLifetime (cs : List Char) : Bool :=
  match anyIdentifier? cs with
  | none => false
  | some (_, _, rest) =>
    !(startsWith "'" rest || (startsWith "#" rest && !startsWith "r#" cs))

/-! ## Blanks and comments -/

/-- White space: the Unicode property, and the two direction marks. -/
def isBlank (c : Char) : Bool :=
  let n := c.toNat
  (0x9 ≤ n && n ≤ 0xd) || n = 0x20 || n = 0x85 || n = 0xa0 || n = 0x1680
    || (0x2000 ≤ n && n ≤ 0x200a) || n = 0x200e || n = 0x200f || n = 0x2028 || n = 0x2029
    || n = 0x202f || n = 0x205f || n = 0x3000

/-- A line: its text without the line end, and the text from the line feed on. -/
def line : List Char → List Char × List Char
  | [] => ([], [])
  | '\n' :: cs => ([], '\n' :: cs)
  | '\r' :: '\n' :: cs => ([], '\n' :: cs)
  | c :: cs =>
    let (text, rest) := line cs
    (c :: text, rest)

/-- The text after a block comment, from inside it; comments nest, `depth` of them are open. -/
def blockBody? (depth : Nat) : List Char → Option (List Char × List Char)
  | [] => none
  | '/' :: '*' :: cs => (blockBody? (depth + 1) cs).map fun (t, r) => ('/' :: '*' :: t, r)
  | '*' :: '/' :: cs =>
    if depth ≤ 1 then some ([], cs)
    else (blockBody? (depth - 1) cs).map fun (t, r) => ('*' :: '/' :: t, r)
  | c :: cs => (blockBody? depth cs).map fun (t, r) => (c :: t, r)

/-- A block comment: what stands between its marks, and what follows it. -/
def block? (cs : List Char) : Option (List Char × List Char) :=
  (after? "/*" cs).bind (blockBody? 1)

/-- The comment that stands here is a documentation comment of the line form. -/
def isLineDoc (cs : List Char) : Bool :=
  startsWith "//!" cs || (startsWith "///" cs && !startsWith "////" cs)

/-- The comment that stands here is a documentation comment of the block form. -/
def isBlockDoc (cs : List Char) : Bool :=
  startsWith "/*!" cs || (startsWith "/**" cs && !startsWith "/***" cs)

/-- Skips blanks and plain comments. `fuel` bounds the number of characters skipped. -/
def skipBlanks : Nat → List Char → List Char
  | 0, cs => cs
  | _ + 1, [] => []
  | fuel + 1, c :: cs =>
    let here := c :: cs
    if startsWith "//" here && !isLineDoc here then skipBlanks fuel (line here).2
    else if startsWith "/**/" here then skipBlanks fuel (here.drop 4)
    else if startsWith "/*" here && !isBlockDoc here then
      match block? here with
      | some (_, rest) => skipBlanks fuel rest
      | none => here
    else if isBlank c then skipBlanks fuel cs
    else here

/-- A documentation comment. -/
structure Doc where
  /-- It documents what it stands in, not what follows it. -/
  inner : Bool
  /-- What stands after the comment mark. -/
  text : List Char

/-- Every carriage return is followed by a line feed. -/
def noBareReturn : List Char → Bool
  | [] => true
  | '\r' :: '\n' :: cs => noBareReturn cs
  | c :: cs => c ≠ '\r' && noBareReturn cs

/-- A documentation comment and what follows it. -/
def doc? (cs : List Char) : Option (Doc × List Char) :=
  let found : Option (Doc × List Char) :=
    if isLineDoc cs then
      let (text, rest) := line (cs.drop 3)
      some (⟨startsWith "//!" cs, text⟩, rest)
    else if isBlockDoc cs then
      (block? cs).map fun (text, rest) => (⟨startsWith "/*!" cs, text.drop 1⟩, rest)
    else none
  match found with
  | some (d, rest) => if noBareReturn d.text then some (d, rest) else none
  | none => none

end DeclMacros.Lexeme
