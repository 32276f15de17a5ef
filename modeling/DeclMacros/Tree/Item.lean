import DeclMacros.Tree.Generics

/-! # Declarations

    The syntax of items.  Structures, enumerations, traits, unions and functions are
    kept apart into their parts; of all other items only the tokens matter. -/

set_option autoImplicit false

namespace DeclMacros

/-! ## Fields -/

/-- A field of a structure, a union or a variant; a field of a tuple has no name. -/
structure Field where
  attrs : List Attribute
  vis : Visibility
  name : Option Ident
  colon : Tokens
  ty : Ty

/-- The tokens of a field. -/
def Field.tokens (f : Field) : Tokens :=
  let label := match f.name with
    | some i => .ident i :: f.colon
    | none => []
  f.attrs.flatMap Attribute.tokens ++ f.vis.tokens ++ label ++ f.ty.tokens

/-- Where a field stands, its attributes included. -/
def Field.span (f : Field) : Span := Tokens.span f.tokens

/-- The fields of a structure or a variant. -/
inductive Fields where
  | named (fields : Separated Field) (span : Span)
  | tuple (fields : Separated Field) (span : Span)
  | unit

namespace Fields

/-- The fields in declaration order. -/
def list : Fields → List Field
  | .named fields _ => fields.values
  | .tuple fields _ => fields.values
  | .unit => []

/-- The tokens of the fields with their delimiters. -/
def tokens : Fields → Tokens
  | .named fields span => [.group .brace (fields.tokens Field.tokens) span]
  | .tuple fields span => [.group .parenthesis (fields.tokens Field.tokens) span]
  | .unit => []

/-- The same fields, each changed by a function. -/
def map (f : Field → Field) : Fields → Fields
  | .named fields span => .named (fields.map fun (a, s) => (f a, s)) span
  | .tuple fields span => .tuple (fields.map fun (a, s) => (f a, s)) span
  | .unit => .unit

end Fields

/-! ## Structures, enumerations, unions -/

/-- A structure. -/
structure StructDecl where
  attrs : List Attribute
  vis : Visibility
  keyword : Token
  name : Ident
  generics : Generics
  fields : Fields
  semicolon : Tokens

/-- The tokens of a structure. In a tuple structure the where clause stands after the fields. -/
def StructDecl.tokens (s : StructDecl) : Tokens :=
  let head := Attribute.outerTokens s.attrs ++ s.vis.tokens ++ [s.keyword, .ident s.name]
    ++ s.generics.tokens
  match s.fields with
  | .named .. => head ++ s.generics.whereTokens ++ s.fields.tokens
  | _ => head ++ s.fields.tokens ++ s.generics.whereTokens ++ s.semicolon

/-- A variant of an enumeration; `discriminant` is its value with the equals sign. -/
structure Variant where
  attrs : List Attribute
  name : Ident
  fields : Fields
  discriminant : Tokens

/-- The tokens of a variant. -/
def Variant.tokens (v : Variant) : Tokens :=
  v.attrs.flatMap Attribute.tokens ++ [.ident v.name] ++ v.fields.tokens ++ v.discriminant

/-- An enumeration. -/
structure EnumDecl where
  attrs : List Attribute
  vis : Visibility
  keyword : Token
  name : Ident
  generics : Generics
  variants : Separated Variant
  span : Span

/-- The tokens of an enumeration. -/
def EnumDecl.tokens (e : EnumDecl) : Tokens :=
  Attribute.outerTokens e.attrs ++ e.vis.tokens ++ [e.keyword, .ident e.name] ++ e.generics.tokens
    ++ e.generics.whereTokens ++ [.group .brace (e.variants.tokens Variant.tokens) e.span]

/-- A union. -/
structure UnionDecl where
  attrs : List Attribute
  vis : Visibility
  keyword : Token
  name : Ident
  generics : Generics
  fields : Separated Field
  span : Span

/-- The tokens of a union. -/
def UnionDecl.tokens (u : UnionDecl) : Tokens :=
  Attribute.outerTokens u.attrs ++ u.vis.tokens ++ [u.keyword, .ident u.name] ++ u.generics.tokens
    ++ u.generics.whereTokens ++ [.group .brace (u.fields.tokens Field.tokens) u.span]

/-! ## Functions -/

/-- A parameter of a function. -/
inductive FnArg where
  /-- A receiver such as `&'a mut self`; `reference` holds the ampersand and `lifetime` what follows
      it. -/
  | receiver (attrs : List Attribute) (reference lifetime mutability : Tokens) (self : Token)
  /-- A parameter with a pattern and a type. -/
  | typed (attrs : List Attribute) (pattern : Pattern) (colon : Tokens) (ty : Ty)

/-- The three dots of a variadic parameter. -/
def isDots : Tokens → Bool
  | [.punct '.' .joint _, .punct '.' .joint _, .punct '.' .alone _] => true
  | _ => false

/-- The type of a variadic parameter. -/
def Ty.isDots : Ty → Bool
  | .verbatim tokens => DeclMacros.isDots tokens
  | _ => false

/-- The pattern of a variadic parameter that was written without a name. -/
def Pattern.isDots (p : Pattern) : Bool :=
  match p.form with
  | .verbatim => DeclMacros.isDots p.tokens
  | _ => false

/-- The tokens of a parameter. A variadic parameter without a name is printed as its dots. -/
def FnArg.tokens : FnArg → Tokens
  | .receiver attrs reference lifetime mutability self =>
    Attribute.outerTokens attrs ++ reference ++ lifetime ++ mutability ++ [self]
  | .typed attrs pattern colon ty =>
    if ty.isDots && pattern.isDots then Attribute.outerTokens attrs ++ pattern.tokens
    else Attribute.outerTokens attrs ++ pattern.tokens ++ colon ++ ty.tokens

/-- Whether a function takes any number of further arguments. -/
inductive Variadic where
  | absent
  /-- The dots end the parameter list, and are not counted among the parameters. -/
  | trailing (tokens : Tokens)
  /-- The last parameter is the variadic one; these are its dots. -/
  | lastParameter (tokens : Tokens)

/-- The signature of a function. -/
structure Signature where
  constness : Tokens
  asyncness : Tokens
  unsafety : Tokens
  abi : Tokens
  keyword : Token
  name : Ident
  generics : Generics
  inputs : Separated FnArg
  parens : Span
  variadic : Variadic
  output : Output

namespace Signature

/-- The dots at the end of the parameter list, after a comma.  A last parameter with dots of its own
    needs no others, unless a comma follows it. -/
def variadicTokens (s : Signature) : Tokens :=
  match s.variadic with
  | .absent => []
  | .trailing tokens => if s.inputs.emptyOrTrailing then tokens else Tokens.op "," ++ tokens
  | .lastParameter tokens => if s.inputs.emptyOrTrailing then tokens else []

/-- The function takes any number of further arguments. -/
def isVariadic (s : Signature) : Bool :=
  match s.variadic with
  | .absent => false
  | _ => true

/-- The tokens of a signature. -/
def tokens (s : Signature) : Tokens :=
  s.constness ++ s.asyncness ++ s.unsafety ++ s.abi ++ [s.keyword, .ident s.name]
    ++ s.generics.tokens
    ++ [.group .parenthesis (s.inputs.tokens FnArg.tokens ++ s.variadicTokens) s.parens]
    ++ s.output.tokens ++ s.generics.whereTokens

/-- Where a signature stands. -/
def span (s : Signature) : Span := Tokens.span s.tokens

end Signature

/-- A function with its body; the attributes inside the body belong to the function. -/
structure FnDecl where
  attrs : List Attribute
  vis : Visibility
  signature : Signature
  body : Tokens
  span : Span

/-- The tokens of a function. -/
def FnDecl.tokens (f : FnDecl) : Tokens :=
  Attribute.outerTokens f.attrs ++ f.vis.tokens ++ f.signature.tokens
    ++ [.group .brace (Attribute.innerTokens f.attrs ++ f.body) f.span]

/-! ## Type aliases -/

/-- A type alias or an associated type; `ty` is the type with its equals sign. -/
structure AliasDecl where
  keyword : Token
  name : Ident
  generics : Generics
  colon : Tokens
  bounds : List (Bound × Tokens)
  ty : Tokens
  semicolon : Tokens

namespace AliasDecl

/-- The tokens up to the bounds. -/
def headTokens (a : AliasDecl) : Tokens :=
  a.keyword :: .ident a.name :: a.generics.tokens
    ++ (if a.bounds.isEmpty then [] else a.colon ++ Bound.listTokens a.bounds)

/-- The tokens of an alias, its where clause before the type. -/
def tokens (a : AliasDecl) : Tokens :=
  a.headTokens ++ a.generics.whereTokens ++ a.ty ++ a.semicolon

/-- The tokens of a member, its where clause after the type. -/
def memberTokens (a : AliasDecl) : Tokens :=
  a.headTokens ++ a.ty ++ a.generics.whereTokens ++ a.semicolon

/-- The alias has a type and no bounds. -/
def isRegular (a : AliasDecl) : Bool := a.colon.isEmpty && !a.ty.isEmpty

/-- The alias is just a name. -/
def isPlain (a : AliasDecl) : Bool :=
  a.colon.isEmpty && a.ty.isEmpty && a.generics.less.isEmpty && a.generics.whereClause.isNone

end AliasDecl

/-! ## Traits -/

/-- The body of a trait method: a block, or the semicolon in its place. -/
inductive MethodBody where
  | block (statements : Tokens) (span : Span)
  | semicolon (tokens : Tokens)

/-- A method of a trait. -/
structure TraitMethod where
  attrs : List Attribute
  signature : Signature
  body : MethodBody

/-- The tokens of a trait method. -/
def TraitMethod.tokens (m : TraitMethod) : Tokens :=
  let body := match m.body with
    | .block statements span => [.group .brace (Attribute.innerTokens m.attrs ++ statements) span]
    | .semicolon tokens => tokens
  Attribute.outerTokens m.attrs ++ m.signature.tokens ++ body

/-- The method has a body of its own. -/
def TraitMethod.hasDefault (m : TraitMethod) : Bool :=
  match m.body with
  | .block .. => true
  | .semicolon _ => false

/-- A member of a trait. -/
inductive TraitItem where
  | method (m : TraitMethod)
  /-- A constant: its attributes, its name, whether it has a value, and the tokens from the keyword
      on. -/
  | const (attrs : List Attribute) (name : Ident) (hasValue : Bool) (body : Tokens)
  /-- An associated type: its attributes, its name, and the tokens from the keyword on. -/
  | type (attrs : List Attribute) (name : Ident) (body : Tokens)
  /-- A macro call: its attributes and the tokens of the call. -/
  | macroCall (attrs : List Attribute) (call : Tokens)
  /-- A form that is kept as it was read. -/
  | verbatim (tokens : Tokens)

namespace TraitItem

/-- The tokens of a trait member. -/
def tokens : TraitItem → Tokens
  | .method m => m.tokens
  | .const attrs _ _ body => Attribute.outerTokens attrs ++ body
  | .type attrs _ body => Attribute.outerTokens attrs ++ body
  | .macroCall attrs call => Attribute.outerTokens attrs ++ call
  | .verbatim tokens => tokens

/-- Where a trait member stands. -/
def span (t : TraitItem) : Span := Tokens.span t.tokens

end TraitItem

/-- A trait; the attributes inside its braces belong to it. -/
structure TraitDecl where
  attrs : List Attribute
  vis : Visibility
  unsafety : Tokens
  auto : Tokens
  keyword : Token
  name : Ident
  generics : Generics
  colon : Tokens
  supertraits : List (Bound × Tokens)
  items : List TraitItem
  span : Span

/-- The tokens of a trait. -/
def TraitDecl.tokens (t : TraitDecl) : Tokens :=
  let bounds := if t.supertraits.isEmpty then [] else t.colon ++ Bound.listTokens t.supertraits
  Attribute.outerTokens t.attrs ++ t.vis.tokens ++ t.unsafety ++ t.auto
    ++ [t.keyword, .ident t.name] ++ t.generics.tokens ++ bounds ++ t.generics.whereTokens
    ++ [.group .brace (Attribute.innerTokens t.attrs ++ t.items.flatMap TraitItem.tokens) t.span]

/-- The methods of a trait in declaration order. -/
def TraitDecl.methods (t : TraitDecl) : List TraitMethod :=
  t.items.filterMap fun
    | .method m => some m
    | _ => none

/-! ## Items -/

/-- A declaration at item level. -/
inductive Item where
  | struct (s : StructDecl)
  | enum (e : EnumDecl)
  | trait (t : TraitDecl)
  | union (u : UnionDecl)
  | function (f : FnDecl)
  /-- Any other item: its attributes and the tokens after them. -/
  | other (attrs : List Attribute) (body : Tokens)
  /-- A form that is kept as it was read. -/
  | verbatim (tokens : Tokens)

namespace Item

/-- The tokens of an item. -/
def tokens : Item → Tokens
  | .struct s => s.tokens
  | .enum e => e.tokens
  | .trait t => t.tokens
  | .union u => u.tokens
  | .function f => f.tokens
  | .other attrs body => attrs.flatMap Attribute.tokens ++ body
  | .verbatim tokens => tokens

/-- The attributes of an item that an attribute macro may be among. -/
def attrs : Item → List Attribute
  | .struct s => s.attrs
  | .enum e => e.attrs
  | .trait t => t.attrs
  | .union u => u.attrs
  | .function f => f.attrs
  | .other .. => []
  | .verbatim _ => []

/-- The item with other attributes. -/
def withAttrs (attrs : List Attribute) : Item → Item
  | .struct s => .struct { s with attrs := attrs }
  | .enum e => .enum { e with attrs := attrs }
  | .trait t => .trait { t with attrs := attrs }
  | .union u => .union { u with attrs := attrs }
  | .function f => .function { f with attrs := attrs }
  | .other old body => .other old body
  | .verbatim tokens => .verbatim tokens

end Item

end DeclMacros
