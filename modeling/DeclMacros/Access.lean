import DeclMacros.Tree.Item

/-! # Access levels

    The visibility of what is generated: named by an argument, else that of the
    declaration. -/

set_option autoImplicit false

namespace DeclMacros

/-- The access levels that an argument can name. -/
inductive AccessLevel where
  /-- Visible everywhere. -/
  | exported
  /-- Visible in the whole library. -/
  | internal
  /-- No keyword at all. -/
  | hidden
  /-- Visible in the module. -/
  | fileLocal
deriving DecidableEq, Repr

namespace AccessLevel

/-- The word by which an argument names the level. -/
def keyword : AccessLevel → String
  | .exported => "public"
  | .internal => "internal"
  | .hidden => "private"
  | .fileLocal => "fileprivate"

/-- All levels. -/
def all : List AccessLevel := [.exported, .internal, .hidden, .fileLocal]

/-- The level that a word names. -/
def ofKeyword? (word : String) : Option AccessLevel :=
  all.find? fun level => level.keyword = word

/-- The level of a written visibility.  Restrictions other than to the library or to the module have
    no level. -/
def ofVisibility? : Visibility → Option AccessLevel
  | .everywhere _ => some .exported
  | .crate _ => some .internal
  | .restricted _ _ [] path =>
    if path.isIdent "crate" then some .internal
    else if path.isIdent "self" then some .fileLocal
    else none
  | .restricted .. => none
  | .inherited => none

/-- The visibility that the level stands for. -/
def tokens : AccessLevel → Tokens
  | .exported => [.word "pub"]
  | .internal => [.word "pub", .parens [.word "crate"]]
  | .fileLocal => [.word "pub", .parens [.word "self"]]
  | .hidden => []

end AccessLevel

end DeclMacros
