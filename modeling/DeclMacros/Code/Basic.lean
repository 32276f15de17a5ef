import DeclMacros.Expansion
import DeclMacros.Tree.Generics

/-! # Pieces of generated code

    Functions, implementation blocks and structure literals as data, with the tokens
    they print.  The value of a field in a literal is one of a few forms, so that what
    a literal computes can be read off the data. -/

set_option autoImplicit false

namespace DeclMacros

namespace Tokens

/-- A path from the core library. -/
def core (names : List String) : Tokens := globalPath ("core" :: names)

/-- The absent optional value. -/
def absent : Tokens := core ["option", "Option", "None"]

/-- A present optional value. -/
def present (value : Tokens) : Tokens := core ["option", "Option", "Some"] ++ [.parens value]

/-- The type of optional values. -/
def optionOf (ty : Tokens) : Tokens :=
  core ["option", "Option"] ++ op "<" ++ ty ++ op ">"

/-- An attribute. -/
def attr (content : Tokens) : Tokens := op "#" ++ [.brackets content]

/-- A field of the receiver. -/
def selfField (name : Ident) : Tokens := .word "self" :: op "." ++ [.ident name]

/-- A type with a path under it, such as `<T>::stub`. -/
def underType (ty : Tokens) (name : String) : Tokens :=
  op "<" ++ ty ++ op ">" ++ op "::" ++ [.word name]

/-- The conversion function of a type. -/
def parseOf (ty : Tokens) : Tokens :=
  underType (ty ++ .word "as" :: globalPath ["brewery", "AutoParseable"]) "parse"

end Tokens

/-! ## Values of fields -/

/-- A value that generated code supplies by itself. -/
inductive Initial where
  /-- An expression of the author. -/
  | given (e : Expr)
  /-- The absent optional value. -/
  | absent
  /-- The test value of a type. -/
  | stubOf (ty : Ty)
  /-- The test value of a type, as a present optional value. -/
  | presentStub (inner : Ty)

/-- The tokens of a supplied value. -/
def Initial.tokens : Initial → Tokens
  | .given e => e.tokens
  | .absent => .absent
  | .stubOf ty => Tokens.underType ty.tokens "stub" ++ [.parens []]
  | .presentStub inner => .present (Tokens.underType inner.tokens "stub" ++ [.parens []])

/-- How generated code computes the value of a field. -/
inductive FieldValue where
  /-- The parameter of the same name. -/
  | parameter
  /-- A supplied value. -/
  | initial (i : Initial)
  /-- The value that carries no data. -/
  | phantom
  /-- The field of the same name of the receiver. -/
  | stored
  /-- The value present in the field of the same name of the receiver; its absence is an error. -/
  | required
  /-- The field of the same name of the raw value. -/
  | raw
  /-- That field, converted to a type. -/
  | parsed (ty : Ty)
  /-- That field, an optional value, converted inside. -/
  | mapParsed (inner : Ty)

/-- The code for a field value. -/
def FieldValue.tokens (name : Ident) : FieldValue → Tokens
  | .parameter => [.ident name]
  | .initial i => i.tokens
  | .phantom => Tokens.core ["marker", "PhantomData"]
  | .stored => Tokens.selfField name
  | .required =>
    .word "match" :: Tokens.selfField name
      ++ [.braces (
        Tokens.present [.word "value"] ++ Tokens.op "=>" ++ [.word "value"] ++ Tokens.op ","
        ++ Tokens.absent ++ Tokens.op "=>"
        ++ [.braces (.word "return" :: Tokens.core ["result", "Result", "Err"]
          ++ [.parens (Tokens.globalPath ["brewery", "BuildError", "MissingField"]
            ++ [.parens [.text name.display]])]
          ++ Tokens.op ";")])]
  | .raw => rawField
  | .parsed ty => Tokens.parseOf ty.tokens ++ [.parens rawField]
  | .mapParsed inner =>
    rawField ++ Tokens.op "." ++ [.word "map", .parens (Tokens.parseOf inner.tokens)]
where
  /-- The field of the raw value. -/
  rawField : Tokens := .word "raw" :: Tokens.op "." ++ [.ident name]

/-- A field in a structure literal and its value. -/
structure FieldInit where
  name : Ident
  value : FieldValue

/-- The tokens of a field in a literal; a parameter is written in short. -/
def FieldInit.tokens (f : FieldInit) : Tokens :=
  match f.value with
  | .parameter => [.ident f.name]
  | value => .ident f.name :: Tokens.op ":" ++ value.tokens f.name

/-- A structure literal. -/
def structLiteral (head : Token) (fields : List FieldInit) : Tokens :=
  [head, .braces (Tokens.commaTerminated (fields.map FieldInit.tokens))]

/-! ## Functions and blocks -/

/-- A generated function. -/
structure Function where
  attrs : Tokens := []
  vis : Tokens := []
  name : Ident
  generics : Tokens := []
  params : Tokens := []
  output : Tokens
  body : Tokens

/-- The tokens of a generated function. -/
def Function.tokens (f : Function) : Tokens :=
  f.attrs ++ f.vis ++ [.word "fn", .ident f.name] ++ f.generics ++ [.parens f.params]
    ++ Tokens.op "->" ++ f.output ++ [.braces f.body]

/-- A parameter with its type. -/
def typedName (name : Ident) (ty : Tokens) : Tokens := .ident name :: Tokens.op ":" ++ ty

/-- A type with its generic parameters, as the target of implementations. -/
structure Target where
  name : Ident
  generics : Generics

namespace Target

/-- The type applied to its own parameters. -/
def applied (t : Target) : Tokens := .ident t.name :: t.generics.argumentTokens

/-- An implementation block for the type itself. -/
def implBlock (t : Target) (members : Tokens) : Tokens :=
  .word "impl" :: t.generics.implTokens ++ t.applied ++ t.generics.whereTokens ++ [.braces members]

/-- An implementation block of a trait for the type. -/
def implTraitBlock (t : Target) (trait members : Tokens) : Tokens :=
  .word "impl" :: t.generics.implTokens ++ trait ++ .word "for" :: t.applied
    ++ t.generics.whereTokens ++ [.braces members]

end Target

/-! ## Setters -/

/-- A function that replaces one field and returns the changed value. -/
structure Setter where
  name : Ident
  field : Ident
  ty : Ty
  /-- The field holds an optional value, in which the given one is wrapped. -/
  wraps : Bool := false

/-- The function of a setter. -/
def Setter.function (vis : Tokens) (s : Setter) : Function where
  attrs := Tokens.attr [.word "must_use"]
  vis := vis
  name := s.name
  params := [.word "mut", .word "self"] ++ Tokens.op "," ++ typedName s.field s.ty.tokens
  output := [.word "Self"]
  body :=
    let value := if s.wraps then Tokens.present [.ident s.field] else [.ident s.field]
    Tokens.selfField s.field ++ Tokens.op "=" ++ value ++ Tokens.op ";" ++ [.word "self"]

end DeclMacros
