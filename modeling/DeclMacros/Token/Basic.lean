import DeclMacros.Token.Span

/-! # Token trees

    Source text is read into token trees: identifiers, single punctuation characters,
    literals kept as written, and delimited groups.  A group without visible
    delimiters stands for a fragment that was substituted as a whole. -/

set_option autoImplicit false

namespace DeclMacros

/-- How a group is delimited. -/
inductive Delimiter where
  | parenthesis
  | bracket
  | brace
  | invisible
deriving DecidableEq, Repr

/-- Whether a punctuation character is glued to the punctuation that follows it. -/
inductive Spacing where
  | alone
  | joint
deriving DecidableEq, Repr

/-- An identifier: its text without the raw marker, and whether it was written raw. -/
structure Ident where
  text : String
  raw : Bool := false
  span : Span := .callSite
deriving DecidableEq, Repr

namespace Ident

/-- The identifier as it is printed; comparing an identifier with a text compares this form. -/
def display (i : Ident) : String :=
  if i.raw then "r#" ++ i.text else i.text

/-- The identifier is printed as this text. -/
def is (i : Ident) (text : String) : Bool :=
  i.display == text

/-- The same name, wherever it stands. -/
def same (i j : Ident) : Bool :=
  i.text == j.text && i.raw == j.raw

end Ident

/-- A token tree. -/
inductive Token where
  | ident (name : Ident)
  | punct (char : Char) (spacing : Spacing) (span : Span)
  | literal (text : String) (span : Span)
  | group (delimiter : Delimiter) (content : List Token) (span : Span)
deriving Repr

/-- A sequence of token trees. -/
abbrev Tokens := List Token

namespace Token

/-- Where the token stands. -/
def span : Token → Span
  | .ident i => i.span
  | .punct _ _ s => s
  | .literal _ s => s
  | .group _ _ s => s

/-- Where an unexpected token is reported: a group at its opening delimiter. -/
def openSpan : Token → Span
  | .group _ _ s => s.firstChar
  | t => t.span

/-- Where the end of a group's content is reported: at the closing delimiter. -/
def closeSpan : Token → Span
  | .group _ _ s => s.lastChar
  | t => t.span

/-- The token is glued to the next one. -/
def isJoint : Token → Bool
  | .punct _ .joint _ => true
  | _ => false

mutual

/-- The number of tokens in a tree, groups included. -/
def size : Token → Nat
  | .group _ content _ => 1 + sizes content
  | _ => 1

/-- The number of tokens in a sequence of trees. -/
def sizes : List Token → Nat
  | [] => 0
  | t :: ts => t.size + sizes ts

end

mutual

/-- The same tree, every token moved to the call site. -/
def respan : Token → Token
  | .ident i => .ident { i with span := .callSite }
  | .punct c s _ => .punct c s .callSite
  | .literal t _ => .literal t .callSite
  | .group d content _ => .group d (respans content) .callSite

/-- The same trees, every token moved to the call site. -/
def respans : List Token → List Token
  | [] => []
  | t :: ts => t.respan :: respans ts

end

mutual

/-- The identifier occurs in the tree, at any depth of groups. -/
def mentions (text : String) : Token → Bool
  | .ident i => i.is text
  | .group _ content _ => mentionsAny text content
  | _ => false

/-- The identifier occurs in one of the trees, at any depth of groups. -/
def mentionsAny (text : String) : List Token → Bool
  | [] => false
  | t :: ts => t.mentions text || mentionsAny text ts

end

/-! ## The visible front of a sequence -/

mutual

/-- The tokens that a reader finds where the tree stands: an invisible group shows its content. -/
def exposed : Token → List Token
  | .group .invisible content _ => exposedFront content
  | t => [t]

/-- The sequence with the invisible groups at its front opened, so that it starts with a visible
    token. -/
def exposedFront : List Token → List Token
  | [] => []
  | t :: ts =>
    match t.exposed with
    | [] => exposedFront ts
    | front => front ++ ts

end

end Token

/-- The span of a node that prints these tokens: from the first token to the last. -/
def Tokens.span (ts : Tokens) : Span :=
  Span.cover (ts.map Token.span)

/-! ## Making tokens -/

namespace Token

/-- A keyword or plain name at the call site. -/
def word (text : String) : Token :=
  .ident { text := text }

/-- A string literal that denotes the text. -/
def ofLiteral (text : String) : Token :=
  .literal text .callSite

/-- A parenthesised group at the call site. -/
def parens (content : Tokens) : Token :=
  .group .parenthesis content .callSite

/-- A bracketed group at the call site. -/
def brackets (content : Tokens) : Token :=
  .group .bracket content .callSite

/-- A braced group at the call site. -/
def braces (content : Tokens) : Token :=
  .group .brace content .callSite

end Token

namespace Tokens

/-- The characters of one operator with their spans: all joint but the last. -/
def glued : List (Char × Span) → Tokens
  | [] => []
  | [(c, s)] => [.punct c .alone s]
  | (c, s) :: rest => .punct c .joint s :: glued rest

/-- An operator at the call site. -/
def op (text : String) : Tokens :=
  glued (text.toList.map fun c => (c, .callSite))

/-- A lifetime at the call site, given without its apostrophe. -/
def lifetime (name : String) : Tokens :=
  [.punct '\'' .joint .callSite, .word name]

/-- A path that starts at the root: each name after a double colon. -/
def globalPath (names : List String) : Tokens :=
  names.flatMap fun n => op "::" ++ [.word n]

/-- The sequences one after the other, with a comma between them. -/
def commaSeparated : List Tokens → Tokens
  | [] => []
  | [ts] => ts
  | ts :: rest => ts ++ op "," ++ commaSeparated rest

/-- The sequences one after the other, with a comma after each. -/
def commaTerminated (all : List Tokens) : Tokens :=
  all.flatMap fun ts => ts ++ op ","

end Tokens

end DeclMacros
