import DeclMacros.Text.Quoted
import DeclMacros.Token.Basic
import DeclMacros.Token.Lexeme

/-! # From text to tokens

    `Tokens.lex?` reads a whole text.  It fails on unbalanced delimiters, unfinished
    literals and characters that belong to no token; there is one failure for all of
    them, so it is `none`.  A documentation comment becomes the attribute that it
    abbreviates, all of whose tokens span the comment. -/

set_option autoImplicit false

namespace DeclMacros

namespace Lexer

/-- A group that is still open: its delimiter, where it starts, and the tokens before it, last
    first. -/
structure Frame where
  delimiter : Delimiter
  start : Nat
  before : List Token

/-- The delimiter that a character opens. -/
def opening? : Char → Option Delimiter
  | '(' => some .parenthesis
  | '[' => some .bracket
  | '\x7b' => some .brace
  | _ => none

/-- The delimiter that a character closes. -/
def closing? : Char → Option Delimiter
  | ')' => some .parenthesis
  | ']' => some .bracket
  | '\x7d' => some .brace
  | _ => none

/-- The placeholder that a compiler prints for an erroneous fragment; it is read as a literal. -/
def errorMark : String := "(/*ERROR*/)"

/-- The attribute that a documentation comment abbreviates. -/
def docAttribute (d : Lexeme.Doc) (span : Span) : List Token :=
  let body : List Token :=
    [.ident { text := "doc", span := span }, .punct '=' .alone span,
      .literal (Text.literalQuoted (String.ofList d.text)) span]
  let bang : List Token := if d.inner then [.punct '!' .alone span] else []
  .punct '#' .alone span :: bang ++ [.group .bracket body span]

/-- One token that is not a group, given where it starts, and the text after it.  A literal is tried
    first, then punctuation, then an identifier. -/
def leaf? (start : Nat) (cs : List Char) : Option (Token × List Char) :=
  let spanTo (rest : List Char) : Span := .source start (start + (cs.length - rest.length))
  let taken (rest : List Char) : String := String.ofList (cs.take (cs.length - rest.length))
  match Lexeme.literal? cs with
  | some rest => some (.literal (taken rest) (spanTo rest), rest)
  | none =>
    match Lexeme.punctuation? cs with
    | some ('\'', rest) =>
      if Lexeme.startsLifetime rest then some (.punct '\'' .joint (spanTo rest), rest) else none
    | some (c, rest) =>
      let spacing := if (Lexeme.punctuation? rest).isSome then Spacing.joint else .alone
      some (.punct c spacing (spanTo rest), rest)
    | none =>
      match Lexeme.word? cs with
      | some (raw, name, rest) =>
        some (.ident ⟨String.ofList name, raw, spanTo rest⟩, rest)
      | none =>
        (Lexeme.after? errorMark cs).map fun rest => (.literal errorMark (spanTo rest), rest)

/-- Reads tokens until the text ends.  `offset` counts the characters passed, `stack` holds the open
    groups, innermost first, and `done` the tokens read in the innermost one, last first. -/
def run : Nat → Nat → List Char → List Frame → List Token → Option (List Token)
  | 0, _, _, _, _ => none
  | fuel + 1, offset, cs, stack, done =>
    let here := Lexeme.skipBlanks cs.length cs
    let start := offset + (cs.length - here.length)
    match Lexeme.doc? here with
    | some (d, rest) =>
      let stop := start + (here.length - rest.length)
      run fuel stop rest stack ((docAttribute d (.source start stop)).reverse ++ done)
    | none =>
      match here with
      | [] => if stack.isEmpty then some done.reverse else none
      | c :: rest =>
        match opening? c, closing? c, stack with
        | some d, _, _ =>
          if Lexeme.startsWith errorMark here then
            match leaf? start here with
            | some (t, tail) => run fuel (start + (here.length - tail.length)) tail stack (t :: done)
            | none => none
          else run fuel (start + 1) rest (⟨d, start, done⟩ :: stack) []
        | none, some _, [] => none
        | none, some d, frame :: outer =>
          if frame.delimiter = d then
            let group := Token.group d done.reverse (.source frame.start (start + 1))
            run fuel (start + 1) rest outer (group :: frame.before)
          else none
        | none, none, _ =>
          match leaf? start here with
          | some (t, tail) => run fuel (start + (here.length - tail.length)) tail stack (t :: done)
          | none => none

end Lexer

/-- The tokens of a source text.  A byte order mark at its start is skipped, and counts as a
    character in the places of the tokens. -/
def Tokens.lex? (text : String) : Option Tokens :=
  match text.toList with
  | '\ufeff' :: cs => Lexer.run (cs.length + 1) 1 cs [] []
  | cs => Lexer.run (cs.length + 1) 0 cs [] []

end DeclMacros
