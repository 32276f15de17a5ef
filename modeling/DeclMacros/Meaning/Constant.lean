import DeclMacros.Token.Literal
import DeclMacros.Tree.Expr
import DeclMacros.Value

/-! # The value of plain expressions

    The few forms of expression that the sample declarations use as values: flags,
    integers, texts made from a literal, and the empty list. -/

set_option autoImplicit false

namespace DeclMacros

namespace Token

/-- The token is this identifier. -/
def isWord (text : String) : Token → Bool
  | .ident i => i.is text
  | _ => false

/-- The token is this punctuation character. -/
def isPunct (c : Char) : Token → Bool
  | .punct d _ _ => c == d
  | _ => false

/-- The token is an empty pair of parentheses. -/
def isUnit : Token → Bool
  | .group .parenthesis [] _ => true
  | _ => false

/-- The literal that the token is. -/
def literal? : Token → Option Literal
  | .literal text _ => some (Literal.ofText text)
  | _ => none

end Token

/-- The value of a plain expression. -/
def Expr.constant? (e : Expr) : Option Value :=
  match e.tokens with
  | [t] =>
    if t.isWord "true" then some (.flag true)
    else if t.isWord "false" then some (.flag false)
    else
      match t.literal? with
      | some (.integer n _) => some (.number n)
      | _ => none
  | [t, dot, method, unit] =>
    match t.literal? with
    | some (.text s) =>
      if dot.isPunct '.' && method.isWord "to_string" && unit.isUnit then some (.text s) else none
    | _ => none
  | [ty, first, second, method, unit] =>
    if ty.isWord "Vec" && first.isPunct ':' && second.isPunct ':' && method.isWord "new"
        && unit.isUnit then
      some (.list [])
    else none
  | _ => none

end DeclMacros
