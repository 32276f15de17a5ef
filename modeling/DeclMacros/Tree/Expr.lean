import DeclMacros.Grammar.Parser

/-! # Expressions and patterns

    The generators copy expressions and patterns; they rarely look into them.  An
    expression therefore keeps the tokens that it prints, together with the few facts
    about its outermost form that are asked for.  A pattern keeps the names that it
    binds as well. -/

set_option autoImplicit false

namespace DeclMacros

/-- The outermost form of an expression, as far as anything depends on it. -/
inductive ExprForm where
  /-- An array literal with its elements. -/
  | array (elements : List Tokens)
  /-- A closure with its parameters. -/
  | closure (parameters : Separated Tokens)
  /-- A string literal with the text it denotes. -/
  | text (value : String)
  /-- A path without a self type; the identifier, if it is nothing else. -/
  | path (name : Option Ident)
  /-- A range, after which a dot does not start a field access. -/
  | range
  /-- A block or a control structure, which ends a statement without a semicolon. -/
  | blockLike
  /-- An assignment or another operation with two operands; whether its leftmost operand is kept as
      it was read. -/
  | operation (onVerbatim : Bool)
  /-- A form that is kept as it was read. -/
  | verbatim
  | other
deriving Repr

/-- An expression: what it prints, and its outermost form. -/
structure Expr where
  tokens : Tokens
  form : ExprForm := .other
deriving Repr

namespace Expr

/-- Where the expression stands. -/
def span (e : Expr) : Span := Tokens.span e.tokens

/-- An expression that needs a semicolon, or a comma in a match arm, when more follows. -/
def requiresTerminator (e : Expr) : Bool :=
  match e.form with
  | .blockLike => false
  | _ => true

/-- Attributes belong to the leftmost operand, and one that is kept as it was read has no place for
    them: attributes put in front of it from outside are dropped. -/
def dropsAttrs (e : Expr) : Bool :=
  match e.form with
  | .verbatim => true
  | .operation onVerbatim => onVerbatim
  | _ => false

end Expr

/-- The outermost form of a pattern. -/
inductive PatternForm where
  /-- A binding of a name, by reference or not, with or without a pattern after it. -/
  | binding (name : Ident) (byRef subpattern : Bool)
  /-- A form that is kept as it was read. -/
  | verbatim
  | other
deriving Repr

/-- A pattern: what it prints, its outermost form, and the names that it binds. -/
structure Pattern where
  tokens : Tokens
  form : PatternForm := .other
  binds : List Ident := []
deriving Repr

end DeclMacros
