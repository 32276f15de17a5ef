import DeclMacros.Text.Quoted

/-! # Crashes

    Requests that cannot be answered, not even by an error in the source: making an
    identifier from a text that is none, reading a literal of a kind that the grammar
    does not know, losing a separator between parameters, and exceeding the width of a
    number or the room for a list. -/

set_option autoImplicit false

namespace DeclMacros

/-- Why an expansion stops without a result. -/
inductive Crash where
  /-- An identifier was made from the empty text. -/
  | emptyName
  /-- An identifier was made from digits only. -/
  | numericName
  /-- An identifier was made from a text that does not have the form of one. -/
  | invalidName (text : String)
  /-- A raw identifier was made from a name that cannot be raw. -/
  | unrawableName (text : String)
  /-- A literal of an unknown kind was read. -/
  | unknownLiteral (text : String)
  /-- A value was added to a list whose last value has no separator. -/
  | missingSeparator
  /-- A product does not fit its type. -/
  | productOverflow
  /-- A list is too long to be addressed. -/
  | capacityOverflow
deriving DecidableEq, Repr

/-- The wording of a crash. -/
def Crash.message : Crash → String
  | .emptyName => "Ident is not allowed to be empty; use Option<Ident>"
  | .numericName => "Ident cannot be a number; use Literal instead"
  | .invalidName text => Text.debugQuoted text ++ " is not a valid Ident"
  | .unrawableName text => "`r#" ++ text ++ "` cannot be a raw identifier"
  | .unknownLiteral text => "Unrecognized literal: `" ++ text ++ "`"
  | .missingSeparator =>
    "Punctuated::push_value: cannot push value if Punctuated is missing trailing punctuation"
  | .productOverflow => "attempt to multiply with overflow"
  | .capacityOverflow => "capacity overflow"

end DeclMacros
