import DeclMacros.Tree.Item

/-! # Phrases that nest

    Types, expressions, patterns, blocks and items contain each other.  A grammar rule
    takes the parsers for the phrases inside it as a value of `Phrases`; the rules
    themselves do not recurse.  The parsers for phrases nested at most `n + 1` deep
    are made from those for phrases nested at most `n` deep. -/

set_option autoImplicit false

namespace DeclMacros

/-- How tightly an operator binds, from loose to tight. -/
inductive Precedence where
  | any
  | assign
  | range
  | or
  | and
  | compare
  | bitOr
  | bitXor
  | bitAnd
  | shift
  | arithmetic
  | term
  | cast
deriving DecidableEq, Repr

/-- The place of a precedence in the order. -/
def Precedence.rank : Precedence → Nat
  | .any => 0
  | .assign => 1
  | .range => 2
  | .or => 3
  | .and => 4
  | .compare => 5
  | .bitOr => 6
  | .bitXor => 7
  | .bitAnd => 8
  | .shift => 9
  | .arithmetic => 10
  | .term => 11
  | .cast => 12

/-- Parsers for the phrases that occur inside other phrases. -/
structure Phrases where
  /-- A type. The flags allow `+` between bounds, and arguments after a substituted path. -/
  ty : Bool → Bool → Parser Ty
  /-- A bound. -/
  bound : Parser Bound
  /-- An expression; the flag allows a structure literal without parentheses. -/
  expr : Bool → Parser Expr
  /-- An operand with its unary operators. -/
  operand : Bool → Parser Expr
  /-- The operators after a left operand that bind at least as tightly as given. -/
  operators : Bool → Expr → Precedence → Parser Expr
  /-- A conditional, from its `if` on. -/
  conditional : Parser Expr
  /-- A selection by patterns, from its `match` on. -/
  selection : Parser Expr
  /-- A pattern without alternatives. -/
  pattern : Parser Pattern
  /-- The statements inside a block. -/
  statements : Parser Tokens
  /-- An item. -/
  item : Parser Item
  /-- A field with a name. -/
  field : Parser Field
  /-- What follows `use`. -/
  useTree : Parser Tokens

namespace Phrases

/-- A type where anything may follow. -/
def type (P : Phrases) : Parser Ty := P.ty true true

/-- A type that a `+` may not extend. -/
def typeWithoutPlus (P : Phrases) : Parser Ty := P.ty false true

/-- Parsers for phrases that may not nest at all. -/
def flat : Phrases where
  ty _ _ := Parser.fail .nestedTooDeep
  bound := Parser.fail .nestedTooDeep
  expr _ := Parser.fail .nestedTooDeep
  operand _ := Parser.fail .nestedTooDeep
  operators _ _ _ := Parser.fail .nestedTooDeep
  conditional := Parser.fail .nestedTooDeep
  selection := Parser.fail .nestedTooDeep
  pattern := Parser.fail .nestedTooDeep
  statements := Parser.fail .nestedTooDeep
  item := Parser.fail .nestedTooDeep
  field := Parser.fail .nestedTooDeep
  useTree := Parser.fail .nestedTooDeep

end Phrases

end DeclMacros
