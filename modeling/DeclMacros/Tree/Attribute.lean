import DeclMacros.Grammar.Parser

/-! # Attributes and visibilities

    Both name things by plain paths, without generic arguments. -/

set_option autoImplicit false

namespace DeclMacros

/-- A path of plain names: a leading double colon, if any, and the names with the double colons
    after them. -/
structure PlainPath where
  leading : Tokens
  names : Separated Ident
deriving Repr

namespace PlainPath

/-- The tokens of a plain path. -/
def tokens (p : PlainPath) : Tokens :=
  p.leading ++ Separated.tokens (fun i => [Token.ident i]) p.names

/-- The last name. -/
def last? (p : PlainPath) : Option Ident :=
  p.names.getLast?.map (·.1)

/-- The path is just this identifier. -/
def isIdent (p : PlainPath) (text : String) : Bool :=
  match p.leading, p.names with
  | [], [(i, _)] => i.is text
  | _, _ => false

/-- The names joined with double colons, as messages show them. -/
def display (p : PlainPath) : String :=
  (if p.leading.isEmpty then "" else "::") ++ "::".intercalate (p.names.values.map Ident.display)

end PlainPath

/-- An attribute: its hash sign, its exclamation mark if it is an inner one, the place of its
    brackets, its path and the tokens after the path. -/
structure Attribute where
  pound : Tokens
  bang : Tokens
  brackets : Span
  path : PlainPath
  arguments : Tokens
deriving Repr

namespace Attribute

/-- The tokens of an attribute. -/
def tokens (a : Attribute) : Tokens :=
  a.pound ++ a.bang ++ [.group .bracket (a.path.tokens ++ a.arguments) a.brackets]

/-- An attribute of what it stands in, not of what follows it. -/
def isInner (a : Attribute) : Bool := !a.bang.isEmpty

/-- The attribute goes by this name: the last name of its path, so that a qualified name counts. -/
def named (a : Attribute) (name : String) : Bool :=
  match a.path.last? with
  | some i => i.is name
  | none => false

/-- The tokens of the outer attributes. -/
def outerTokens (attrs : List Attribute) : Tokens :=
  (attrs.filter fun a => !a.isInner).flatMap tokens

/-- The tokens of the inner attributes. -/
def innerTokens (attrs : List Attribute) : Tokens :=
  (attrs.filter fun a => a.isInner).flatMap tokens

/-- The attribute as messages show it, up to the place of its arguments. -/
def display (a : Attribute) : String :=
  (if a.isInner then "#![" else "#[") ++ a.path.display

end Attribute

/-- A visibility. -/
inductive Visibility where
  | inherited
  | everywhere (keyword : Token)
  | crate (keyword : Token)
  /-- A visibility restricted to a module: the keyword, the place of the parentheses, the word `in`
      if it was written, and the module. -/
  | restricted (keyword : Token) (parens : Span) (inside : Tokens) (path : PlainPath)
deriving Repr

namespace Visibility

/-- The tokens of a visibility. -/
def tokens : Visibility → Tokens
  | .inherited => []
  | .everywhere keyword => [keyword]
  | .crate keyword => [keyword]
  | .restricted keyword parens inside path =>
    [keyword, .group .parenthesis (inside ++ path.tokens) parens]

/-- No visibility was written. -/
def isInherited : Visibility → Bool
  | .inherited => true
  | _ => false

end Visibility

end DeclMacros
