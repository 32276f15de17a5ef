import DeclMacros.Meaning.Literal
import DeclMacros.Meaning.Variant
import DeclMacros.Token.Literal

/-! # Programs of generated code

    Macros emit tokens.  This file says what they mean, for code of the few forms that
    macros generate: a program is a syntax tree, which is printed as tokens
    (`Program.tokens`) and can be run by calling its functions by their names
    (`Program.call`).  Types and expressions of the author stand in the tree as they are
    written, and what they mean is said by the surroundings.

    A name is looked up among the parameters of the function that uses it, a function
    among those that the program defines for the type, and a string literal denotes the
    text that a reader of literals finds in it.  So a function that is printed under
    another name, with other parameters or with another body has another meaning.

    Types are compared as they are printed.  A function fits (`Method.Fits`) if what it
    writes into a field is of the type that is declared for the field. -/

set_option autoImplicit false

namespace DeclMacros

/-! ## Expressions -/

/-- An expression. -/
inductive Code where
  /-- The receiver. -/
  | self
  /-- A name that is bound to a value. -/
  | bound (name : Ident)
  /-- An expression of the author. -/
  | given (e : Expr)
  /-- The absent optional value. -/
  | absent
  /-- A present optional value. -/
  | present (value : Code)
  /-- The value that carries no data. -/
  | phantom
  /-- A field of a value. -/
  | field (value : Code) (name : Ident)
  /-- A call of the function that makes the test value of a type. -/
  | stub (ty : Ty)
  /-- A call of the conversion to a type. -/
  | parse (ty : Ty) (value : Code)
  /-- The conversion to a type inside of an optional value. -/
  | mapParse (value : Code) (ty : Ty)
  /-- What is present in an optional value.  If nothing is, the function returns the error
      that the field is missing whose name the literal denotes. -/
  | presentOr (value : Code) (literal : String)

namespace Code

/-- The conversion function of a type. -/
def parseTokens (ty : Ty) : Tokens :=
  Tokens.op "<" ++ (ty.tokens ++ .word "as" :: Tokens.globalPath ["brewery", "AutoParseable"])
    ++ Tokens.op ">" ++ Tokens.op "::" ++ [.word "parse"]

/-- The expression as it is printed. -/
def tokens : Code → Tokens
  | .self => [.word "self"]
  | .bound name => [.ident name]
  | .given e => e.tokens
  | .absent => Tokens.globalPath ["core", "option", "Option", "None"]
  | .present value =>
    Tokens.globalPath ["core", "option", "Option", "Some"] ++ [.parens value.tokens]
  | .phantom => Tokens.globalPath ["core", "marker", "PhantomData"]
  | .field value name => value.tokens ++ Tokens.op "." ++ [.ident name]
  | .stub ty =>
    Tokens.op "<" ++ ty.tokens ++ Tokens.op ">" ++ Tokens.op "::" ++ [.word "stub", .parens []]
  | .parse ty value => parseTokens ty ++ [.parens value.tokens]
  | .mapParse value ty =>
    value.tokens ++ Tokens.op "." ++ [.word "map", .parens (parseTokens ty)]
  | .presentOr value literal =>
    .word "match" :: value.tokens ++ [.braces (
      Tokens.globalPath ["core", "option", "Option", "Some"] ++ [.parens [.word "value"]]
        ++ Tokens.op "=>" ++ [.word "value"] ++ Tokens.op ","
        ++ Tokens.globalPath ["core", "option", "Option", "None"] ++ Tokens.op "=>"
        ++ [.braces (.word "return" :: Tokens.globalPath ["core", "result", "Result", "Err"]
          ++ [.parens (Tokens.globalPath ["brewery", "BuildError", "MissingField"]
            ++ [.parens [.literal literal .callSite]])] ++ Tokens.op ";")])]

end Code

/-- What a function body finds: the name of its own type, its receiver, and the values of its
    parameters. -/
structure Scope where
  type : String
  self : Option Value := none
  names : List (String × Value) := []

namespace Scope

/-- The value of a name. -/
def valueOf (scope : Scope) (name : Ident) : Except Halt Value :=
  Halt.orUndefined name (scope.names.lookup name.text)

/-- The value of the receiver. -/
def receiver (scope : Scope) : Except Halt Value :=
  Halt.orUndefined { text := "self" } scope.self

/-- The name of a type that is mentioned, or of the type itself. -/
def nameOf (scope : Scope) (ty : Option Ident) : String := (ty.map Ident.text).getD scope.type

end Scope

/-- The name under which it is said that the value of an expression does not fit. -/
def Code.label : Code → String
  | .bound name | .field _ name => name.text
  | _ => "self"

/-- The value of an expression. -/
def Code.eval (s : Surroundings) (scope : Scope) : Code → Except Halt Value
  | .self => scope.receiver
  | .bound name => scope.valueOf name
  | .given e => .ok (s.constant e)
  | .absent => .ok .absent
  | .present value => (value.eval s scope).map .present
  | .phantom => .ok .phantom
  | .field value name => value.eval s scope >>= fun v => Halt.orUndefined name (v.field? name.text)
  | .stub ty => .ok (s.stubOf ty)
  | .parse ty value => (value.eval s scope).map (s.parse ty)
  | .mapParse value ty => (value.eval s scope).map (Container.option.map (s.parse ty))
  | .presentOr value literal => value.eval s scope >>= fun
    | .present v => .ok v
    | .absent =>
      -- the name that is reported is read from the literal as it is printed
      match Literal.ofText literal with
      | .text name => .error (.failed (.missingField name))
      | _ => .error (.undefined literal)
    | _ => .error (.undefined value.label)

/-! ## Function bodies -/

/-- A field in a structure literal.  Without code it is written in short, and its value is that
    of the name. -/
structure FieldCode where
  name : Ident
  code : Option Code

namespace FieldCode

/-- The field as it is printed. -/
def tokens (f : FieldCode) : Tokens :=
  match f.code with
  | none => [.ident f.name]
  | some code => .ident f.name :: Tokens.op ":" ++ code.tokens

/-- The value of the field under its name. -/
def eval (s : Surroundings) (scope : Scope) (f : FieldCode) : Except Halt (String × Value) :=
  ((f.code.getD (.bound f.name)).eval s scope).map fun v => (f.name.text, v)

end FieldCode

/-- A structure literal, of the type itself if none is named. -/
structure LiteralCode where
  type : Option Ident
  fields : List FieldCode

/-- The type in front of a literal or a call. -/
def typeToken (ty : Option Ident) : Token := (ty.map Token.ident).getD (.word "Self")

namespace LiteralCode

/-- The literal as it is printed. -/
def tokens (l : LiteralCode) : Tokens :=
  [typeToken l.type, .braces (l.fields.flatMap fun f => f.tokens ++ Tokens.op ",")]

/-- The record that the literal makes: its fields are computed from the first to the last, up to
    the first that has no value. -/
def eval (s : Surroundings) (scope : Scope) (l : LiteralCode) : Except Halt Value :=
  (l.fields.mapM (FieldCode.eval s scope)).map (.record (scope.nameOf l.type))

end LiteralCode

/-- The body of a function. -/
inductive Body where
  /-- A structure literal. -/
  | literal (l : LiteralCode)
  /-- A structure literal as the success of the function. -/
  | success (l : LiteralCode)
  /-- A field of the receiver is replaced, and the receiver returned. -/
  | replace (field : Ident) (value : Code)
  /-- A call of another function of a type. -/
  | call (type : Option Ident) (function : String) (arguments : List Ident)
  /-- The test whether the receiver is of a variant. -/
  | isVariant (variant : Ident)
  /-- The names that a pattern of a variant binds, if the receiver is of that variant. -/
  | select (variant : Ident) (pattern : VariantAccess.FieldPattern) (found : List Ident)

/-- One part stands alone, more stand in parentheses. -/
def Tokens.tupleOf : List Tokens → Tokens
  | [part] => part
  | parts => [.parens (Tokens.commaSeparated parts)]

/-- The pattern of a variant as it is printed. -/
def patternTokens (variant : Ident) : VariantAccess.FieldPattern → Tokens
  | .named fields => .word "Self" :: Tokens.op "::" ++ [.ident variant, .braces
      (Tokens.commaSeparated (fields.map fun f => .ident f.1 :: Tokens.op ":" ++ [.ident f.2]))]
  | .tuple names => .word "Self" :: Tokens.op "::" ++ [.ident variant, .parens
      (Tokens.commaSeparated (names.map fun name => [.ident name]))]

namespace Body

/-- The body as it is printed. -/
def tokens : Body → Tokens
  | .literal l => l.tokens
  | .success l => Tokens.globalPath ["core", "result", "Result", "Ok"] ++ [.parens l.tokens]
  | .replace field value =>
    .word "self" :: Tokens.op "." ++ [.ident field] ++ Tokens.op "=" ++ value.tokens
      ++ Tokens.op ";" ++ [.word "self"]
  | .call type function arguments =>
    typeToken type :: Tokens.op "::" ++ [.word function,
      .parens (Tokens.commaSeparated (arguments.map fun name => [.ident name]))]
  | .isVariant variant =>
    Tokens.globalPath ["core", "matches"] ++ Tokens.op "!"
      ++ [.parens (.word "self" :: Tokens.op "," ++ .word "Self" :: Tokens.op "::"
        ++ [.ident variant, .braces (Tokens.op "..")])]
  | .select variant pattern found =>
    [.word "match", .word "self", .braces (
      patternTokens variant pattern ++ Tokens.op "=>"
        ++ (Tokens.globalPath ["core", "option", "Option", "Some"]
          ++ [.parens (.tupleOf (found.map fun name => [.ident name]))]) ++ Tokens.op ","
        ++ .word "_" :: Tokens.op "=>" ++ Tokens.globalPath ["core", "option", "Option", "None"]
        ++ Tokens.op ",")]

/-- What the body returns, given what calls of other functions return. -/
def eval (s : Surroundings) (call : String → String → List Value → Except Halt Value)
    (scope : Scope) : Body → Except Halt Value
  | .literal l => l.eval s scope
  -- a success is told from a failure by the outcome of the call
  | .success l => l.eval s scope
  | .replace field value => do
    let self ← scope.receiver
    return self.setField field.text (← value.eval s scope)
  | .call type function arguments => do
    call (scope.nameOf type) function (← arguments.mapM scope.valueOf)
  | .isVariant variant => do
    return .flag ((← scope.receiver).tag? == some variant.text)
  | .select variant pattern found => do
    let self ← scope.receiver
    if self.tag? = some variant.text then
      match pattern.bind? self with
      | some bound =>
        -- only what the pattern binds is in scope, not the parameters
        let inner := { scope with names := bound }
        return .present (VariantAccess.payloadOf (← found.mapM (Scope.valueOf inner)))
      | none => .error (.undefined variant.text)
    else return .absent

end Body

/-! ## Functions -/

/-- How a function takes its receiver. -/
inductive ReceiverCode where
  | owned
  | mutable
  | borrowed
deriving DecidableEq

/-- The receiver as it is printed. -/
def ReceiverCode.tokens : ReceiverCode → Tokens
  | .owned => [.word "self"]
  | .mutable => [.word "mut", .word "self"]
  | .borrowed => Tokens.op "&" ++ [.word "self"]

/-- A function. -/
structure Method where
  /-- What stands in its attributes. -/
  attrs : List Tokens := []
  vis : Tokens := []
  name : Ident
  receiver : Option ReceiverCode := none
  /-- The other parameters with their types. -/
  params : List (Ident × Tokens) := []
  output : Tokens
  body : Body

namespace Method

/-- A name with a type as it is printed. -/
def typed (p : Ident × Tokens) : Tokens := .ident p.1 :: Tokens.op ":" ++ p.2

/-- The function as it is printed. -/
def tokens (m : Method) : Tokens :=
  (m.attrs.flatMap fun content => Tokens.op "#" ++ [.brackets content]) ++ m.vis
    ++ [.word "fn", .ident m.name,
      .parens (Tokens.commaSeparated
        ((m.receiver.map ReceiverCode.tokens).toList ++ m.params.map typed))]
    ++ Tokens.op "->" ++ m.output ++ [.braces m.body.tokens]

/-- Calls the function of a type with a receiver, if it takes one, and with a value for each
    other parameter. -/
def call (s : Surroundings) (call : String → String → List Value → Except Halt Value)
    (type : String) (m : Method) (self : Option Value) (arguments : List Value) :
    Except Halt Value :=
  if self.isSome = m.receiver.isSome ∧ arguments.length = m.params.length then
    m.body.eval s call ⟨type, self, (m.params.map fun p => p.1.text).zip arguments⟩
  else .error (.undefined m.name.text)

/-- Calls the first of some functions that has a name. -/
def callNamed (s : Surroundings) (call : String → String → List Value → Except Halt Value)
    (type : String) (methods : List Method) (name : String) (self : Option Value)
    (arguments : List Value) : Except Halt Value :=
  match methods.find? fun m => m.name.text = name with
  | some m => m.call s call type self arguments
  | none => .error (.undefined name)

end Method

/-! ## Programs -/

/-- A definition. -/
inductive Definition where
  /-- A structure with its fields and their types. -/
  | struct (vis : Tokens) (target : Target) (fields : List (Ident × Tokens))
  /-- Functions of a type. -/
  | impl (target : Target) (methods : List Method)
  /-- Functions of a trait for a type, after the types that the trait asks for. -/
  | implTrait (trait : Tokens) (target : Target) (types : Tokens) (methods : List Method)
  /-- Anything else. -/
  | other (tokens : Tokens)

/-- The definition as it is printed. -/
def Definition.tokens : Definition → Tokens
  | .struct vis target fields =>
    vis ++ [.word "struct", .ident target.name] ++ target.generics.tokens
      ++ target.generics.whereTokens
      ++ [.braces (fields.flatMap fun f => Method.typed f ++ Tokens.op ",")]
  | .impl target methods =>
    .word "impl" :: target.generics.implTokens ++ .ident target.name
      :: target.generics.argumentTokens ++ target.generics.whereTokens
      ++ [.braces (methods.flatMap Method.tokens)]
  | .implTrait trait target types methods =>
    .word "impl" :: target.generics.implTokens ++ trait ++ .word "for" :: .ident target.name
      :: target.generics.argumentTokens ++ target.generics.whereTokens
      ++ [.braces (types ++ methods.flatMap Method.tokens)]
  | .other tokens => tokens

/-- A program. -/
abbrev Program := List Definition

namespace Program

/-- The program as it is printed. -/
def tokens (p : Program) : Tokens := p.flatMap Definition.tokens

/-- The fields that a program declares for the structure of a name. -/
def fields (p : Program) (type : String) : List (Ident × Tokens) :=
  p.flatMap fun
    | .struct _ target fields => if target.name.text = type then fields else []
    | _ => []

/-- The functions that a program defines for the type of a name. -/
def methods (p : Program) (type : String) : List Method :=
  p.flatMap fun
    | .impl target methods => if target.name.text = type then methods else []
    | _ => []

/-- The functions of traits that a program defines for the type of a name. -/
def traitMethods (p : Program) (type : String) : List Method :=
  p.flatMap fun
    | .implTrait _ target _ methods => if target.name.text = type then methods else []
    | _ => []

/-- Calls a function without a receiver that calls no other. -/
def callPlain (s : Surroundings) (p : Program) (type name : String) (arguments : List Value) :
    Except Halt Value :=
  -- so whatever is called here is not defined
  Method.callNamed s (fun _ other _ => .error (.undefined other)) type (p.methods type) name none
    arguments

/-- Calls a function of a type.  What it calls itself calls no other. -/
def call (s : Surroundings) (p : Program) (type name : String) (self : Option Value)
    (arguments : List Value) : Except Halt Value :=
  Method.callNamed s (p.callPlain s) type (p.methods type) name self arguments

/-- Calls a function of a trait for a type. -/
def callTrait (s : Surroundings) (p : Program) (type name : String) (arguments : List Value) :
    Except Halt Value :=
  Method.callNamed s (p.callPlain s) type (p.traitMethods type) name none arguments

/-- Calls a function of the type of a value on that value. -/
def invoke (s : Surroundings) (p : Program) (name : String) (arguments : List Value)
    (self : Value) : Except Halt Value :=
  match self.tag? with
  | some type => p.call s type name (some self) arguments
  | none => .error (.undefined name)

/-- Calls functions with one argument each, one after the other, each on what the one before it
    returns. -/
def invokeAll (s : Surroundings) (p : Program) : List (String × Value) → Value → Except Halt Value
  | [], self => .ok self
  | (name, v) :: rest, self => p.invoke s name [v] self >>= p.invokeAll s rest

/-- Gets a builder of a type, calls its functions, and builds. -/
def build (s : Surroundings) (p : Program) (type : String) (calls : List (String × Value)) :
    Except Halt Value := do
  let started ← p.call s type "builder" none []
  let self ← p.invokeAll s calls started
  p.invoke s "build" [] self

end Program

/-! ## Types -/

/-- What is known of types where an expression stands: for which types the author's expressions
    are written, and the types of the receiver's fields and of the names that are bound. -/
structure TypeScope where
  written : Expr → Tokens → Prop
  fields : List (Ident × Tokens)
  names : List (Ident × Tokens)

/-- The type of optional values. -/
def optionTokens (ty : Tokens) : Tokens :=
  Tokens.globalPath ["core", "option", "Option"] ++ Tokens.op "<" ++ ty ++ Tokens.op ">"

/-- The expression is of the type. -/
inductive Code.HasType (scope : TypeScope) : Code → Tokens → Prop where
  | bound {name : Ident} {ty : Tokens} (h : (name, ty) ∈ scope.names) :
      HasType scope (.bound name) ty
  | given {e : Expr} {ty : Tokens} (h : scope.written e ty) : HasType scope (.given e) ty
  | absent {ty : Tokens} : HasType scope .absent (optionTokens ty)
  | absentOf {ty inner : Ty} (h : ty.optionInner? = some inner) : HasType scope .absent ty.tokens
  | present {value : Code} {ty : Tokens} (h : HasType scope value ty) :
      HasType scope (.present value) (optionTokens ty)
  | phantom {of : Tokens} : HasType scope .phantom
      (Tokens.globalPath ["core", "marker", "PhantomData"] ++ Tokens.op "<" ++ of ++ Tokens.op ">")
  | phantomOf {ty : Ty} (h : ty.isPhantom = true) : HasType scope .phantom ty.tokens
  | field {name : Ident} {ty : Tokens} (h : (name, ty) ∈ scope.fields) :
      HasType scope (.field .self name) ty
  | presentOr {value : Code} {ty : Tokens} {literal : String}
      (h : HasType scope value (optionTokens ty)) : HasType scope (.presentOr value literal) ty

/-- A literal has each field that is declared, and each of them is of its type. -/
structure LiteralCode.Fits (scope : TypeScope) (declared : List (Ident × Tokens))
    (l : LiteralCode) : Prop where
  names : (l.fields.map FieldCode.name).Perm (declared.map Prod.fst)
  typed : ∀ f ∈ l.fields, ∃ ty, (f.name, ty) ∈ declared
    ∧ Code.HasType scope (f.code.getD (.bound f.name)) ty

/-- A body fits the fields that are declared for its own type and for one that is named. -/
inductive Body.Fits (scope : TypeScope) (declared : Option Ident → List (Ident × Tokens)) :
    Body → Prop where
  | literal {l : LiteralCode} (h : l.Fits scope (declared l.type)) :
      Fits scope declared (.literal l)
  | success {l : LiteralCode} (h : l.Fits scope (declared l.type)) :
      Fits scope declared (.success l)
  | replace {field : Ident} {value : Code} {ty : Tokens} (hfield : (field, ty) ∈ declared none)
      (hvalue : value.HasType scope ty) : Fits scope declared (.replace field value)

/-- The function fits the fields that are declared. -/
def Method.Fits (written : Expr → Tokens → Prop) (declared : Option Ident → List (Ident × Tokens))
    (m : Method) : Prop :=
  m.body.Fits ⟨written, declared none, m.params⟩ declared

end DeclMacros
