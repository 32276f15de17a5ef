import DeclMacros.Text.Alphanumeric
import DeclMacros.Text.Lowercase

/-! # Snake case

    The rule that turns a variant's name into the name of its accessor.  Trailing
    characters that are neither letters nor numbers are dropped; inner runs of them
    become one underscore; an underscore is also put before a character that begins a
    new word.

    Whether a character begins a word is looked up by *position*: the position counts
    the UTF-8 bytes before the character, while the neighbours are fetched by counting
    characters.  The two agree on ASCII names. -/

set_option autoImplicit false

namespace DeclMacros.Text

/-- The neighbour at a character position is lowercase; a missing neighbour counts as uppercase. -/
def lowercaseAt (name : List Char) (position : Nat) : Bool :=
  match name[position]? with
  | some c => isLowercase c
  | none => false

/-- A new word begins at this character: it is its own uppercase and has a lowercase neighbour. -/
def startsWord (name : List Char) (position : Nat) (c : Char) : Bool :=
  c.toUpper == c && (lowercaseAt name (position + 1) || lowercaseAt name (position - 1))

/-- Walks the trimmed name; `position` counts the bytes passed, `first` holds at the start and after
    an underscore. -/
def snakeWords (name : List Char) (position : Nat) (first : Bool) : List Char → List Char
  | [] => []
  | c :: cs =>
    let next := position + c.utf8Size
    if !isAlphanumeric c then
      if first then snakeWords name next true cs
      else '_' :: snakeWords name next true cs
    else
      let rest := c.toLower :: snakeWords name next false cs
      if !first && startsWord name position c then '_' :: rest else rest

/-- Drops the trailing characters that are neither letters nor numbers. -/
def trimTrailing (name : List Char) : List Char :=
  (name.reverse.dropWhile fun c => !isAlphanumeric c).reverse

/-- The name in snake case. -/
def snakeCase (name : String) : String :=
  let chars := name.toList
  String.ofList (snakeWords chars 0 true (trimTrailing chars))

end DeclMacros.Text
