import DeclMacros.Grammar
import DeclMacros.Token.Lexer

/-! # Names of generated things

    An identifier is made from a text only if the text has the form of one; otherwise
    the expansion crashes.  A text that is a keyword becomes a raw identifier, and the
    four keywords that cannot be raw get an underscore. -/

set_option autoImplicit false

namespace DeclMacros.Ident

/-- Checks that a text can be the text of an identifier. -/
def validate (text : String) : Except Crash Unit :=
  if text.isEmpty then .error .emptyName
  else if text.toList.all Char.isDigit then .error .numericName
  else if Text.isIdentText text.toList then .ok ()
  else .error (.invalidName text)

/-- An identifier with this text. -/
def make (text : String) (span : Span := .callSite) : Except Crash Ident := do
  validate text
  return { text := text, span := span }

/-- The names that cannot be written raw. -/
def unrawable : List String := ["_", "super", "self", "Self", "crate"]

/-- A raw identifier with this text. -/
def makeRaw (text : String) (span : Span := .callSite) : Except Crash Ident := do
  validate text
  if unrawable.contains text then throw (.unrawableName text)
  return { text := text, raw := true, span := span }

/-- The text reads as a single name. -/
def readsAsName (text : String) : Bool :=
  match Tokens.lex? text with
  | none => false
  | some ts =>
    match ts.readName with
    | .ok _ => true
    | .error _ => false

/-- An identifier for a text that may be a keyword. -/
def escaped (text : String) (span : Span := .callSite) : Except Crash Ident :=
  if readsAsName text then make text span
  else if ["crate", "self", "super", "Self"].contains text then make (text ++ "_") span
  else makeRaw text span

/-- The name of the builder of a type. -/
def builderName (name : Ident) : Except Crash Ident :=
  make (name.display ++ "Builder") name.span

/-- The name of the wrapper that erases the implementors of a trait. -/
def erasedName (name : Ident) : Except Crash Ident :=
  make ("Any" ++ name.display) name.span

/-- The name of the setter that replaces a defaulted field. -/
def setterName (name : Ident) : Ident :=
  { text := "with_" ++ name.text, span := name.span }

end DeclMacros.Ident
