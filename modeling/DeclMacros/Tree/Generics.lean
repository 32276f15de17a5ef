import DeclMacros.Tree.Attribute
import DeclMacros.Tree.Type

/-! # Generic parameters

    A declaration's generic parameters are printed in three ways: in full, for the
    head of an implementation (without defaults), and as arguments (names only).  In
    each, lifetimes come first, and an empty list prints nothing. -/

set_option autoImplicit false

namespace DeclMacros

/-- A generic parameter. Lists of bounds that are empty are not printed, nor is their colon. -/
inductive GenericParam where
  | lifetime (attrs : List Attribute) (name : Tokens) (colon : Tokens) (bounds : Separated Tokens)
  /-- A type parameter; `initial` is the default with its equals sign, or all that follows the name
      where that is kept as it was read. -/
  | type (attrs : List Attribute) (name : Ident) (colon : Tokens) (bounds : List (Bound × Tokens))
      (initial : Tokens)
  | const (attrs : List Attribute) (keyword : Token) (name : Ident) (colon : Tokens) (ty : Ty)
      (initial : Tokens)

namespace GenericParam

/-- Lifetimes are printed before the other parameters. -/
def isLifetime : GenericParam → Bool
  | .lifetime .. => true
  | _ => false

/-- The parameter with its bounds but without its default. -/
def bounded : GenericParam → Tokens
  | .lifetime attrs name colon bounds =>
    attrs.flatMap Attribute.tokens ++ name
      ++ (if bounds.isEmpty then [] else colon ++ bounds.tokens id)
  | .type attrs name colon bounds _ =>
    attrs.flatMap Attribute.tokens ++ [.ident name]
      ++ (if bounds.isEmpty then [] else colon ++ Bound.listTokens bounds)
  | .const attrs keyword name colon ty _ =>
    attrs.flatMap Attribute.tokens ++ [keyword, .ident name] ++ colon ++ ty.tokens

/-- The parameter in full. -/
def tokens : GenericParam → Tokens
  | .lifetime attrs name colon bounds => bounded (.lifetime attrs name colon bounds)
  | .type attrs name colon bounds initial =>
    bounded (.type attrs name colon bounds initial) ++ initial
  | .const attrs keyword name colon ty initial =>
    bounded (.const attrs keyword name colon ty initial) ++ initial

/-- The parameter as an argument: its name. -/
def argument : GenericParam → Tokens
  | .lifetime _ name _ _ => name
  | .type _ name _ _ _ => [.ident name]
  | .const _ _ name _ _ _ => [.ident name]

end GenericParam

/-- A where clause: its keyword and its predicates. -/
structure WhereClause where
  keyword : Token
  predicates : Separated Tokens

/-- The tokens of a where clause; without predicates there are none. -/
def WhereClause.tokens (w : WhereClause) : Tokens :=
  if w.predicates.isEmpty then [] else w.keyword :: w.predicates.tokens id

/-- The generic parameters of a declaration and its where clause. -/
structure Generics where
  less : Tokens := []
  params : Separated GenericParam := []
  greater : Tokens := []
  whereClause : Option WhereClause := none

namespace Generics

/-- Parameters in printing order, each printed by `print` with its comma.  A comma is put between
    the lifetimes and the rest when the last lifetime has none. -/
def printed (print : GenericParam → Tokens) (g : Generics) : Tokens :=
  if g.params.isEmpty then []
  else
    let lifetimes : Separated GenericParam := g.params.filter fun (p, _) => p.isLifetime
    let others : Separated GenericParam := g.params.filter fun (p, _) => !p.isLifetime
    let comma := if lifetimes.emptyOrTrailing || others.isEmpty then [] else Tokens.op ","
    g.less ++ lifetimes.tokens print ++ comma ++ others.tokens print ++ g.greater

/-- The parameter list in full. -/
def tokens (g : Generics) : Tokens := g.printed GenericParam.tokens

/-- The parameter list for the head of an implementation. -/
def implTokens (g : Generics) : Tokens := g.printed GenericParam.bounded

/-- The parameter list as arguments of the declared type. -/
def argumentTokens (g : Generics) : Tokens := g.printed GenericParam.argument

/-- The where clause. -/
def whereTokens (g : Generics) : Tokens :=
  match g.whereClause with
  | some w => w.tokens
  | none => []

end Generics

end DeclMacros
