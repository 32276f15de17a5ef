import DeclMacros.Attachment
import DeclMacros.Code.Basic
import DeclMacros.Declaration
import DeclMacros.Name

/-! # Wrappers that erase the implementor of a trait

    A wrapper implements a trait by forwarding to any value that implements it.
    Properties are copied out when the wrapper is made; every other method is called
    through a stored closure.  A trait with a member that cannot be forwarded gets no
    wrapper. -/

set_option autoImplicit false

namespace DeclMacros

/-- A member of a wrapper. -/
inductive WrapperMember where
  /-- A property, copied out once. -/
  | property (signature : Signature) (ty : Ty)
  /-- A method, called through a closure, with the names and types of its arguments. -/
  | method (signature : Signature) (args : List (Ident × Ty))

namespace WrapperMember

/-- The signature of the member. -/
def signature : WrapperMember → Signature
  | .property signature _ => signature
  | .method signature _ => signature

/-- The name of the member. -/
def name (m : WrapperMember) : Ident := m.signature.name

/-- The member is a property. -/
def isProperty : WrapperMember → Bool
  | .property .. => true
  | .method .. => false

end WrapperMember

/-! ## Which members can be forwarded -/

namespace Signature

/-- The type that is returned, if one is written. -/
def outputType? (s : Signature) : Option Ty := s.output.ty?

/-- The types of the inputs after the receiver. -/
def inputTypes (s : Signature) : List Ty :=
  s.inputs.values.filterMap fun
    | .typed _ _ _ ty => some ty
    | .receiver .. => none

/-- The types of the inputs and of the output. -/
def allTypes (s : Signature) : List Ty := s.inputTypes ++ s.outputType?.toList

/-- The function has generic parameters or a where clause. -/
def isGeneric (s : Signature) : Bool :=
  !s.generics.params.isEmpty || s.generics.whereClause.isSome

/-- The function is asynchronous. -/
def isAsync (s : Signature) : Bool := !s.asyncness.isEmpty

/-- The function is unsafe. -/
def isUnsafe (s : Signature) : Bool := !s.unsafety.isEmpty

end Signature

/-- The identifier `Self` occurs in the type. -/
def Ty.mentionsSelf (t : Ty) : Bool := Token.mentionsAny "Self" t.tokens

namespace TraitMethod

/-- The method has the form of a getter. -/
def isGetter (m : TraitMethod) : Bool :=
  m.borrowsSelf && m.signature.inputs.length = 1 && !m.signature.isAsync && !m.signature.isUnsafe
    && !m.signature.isGeneric

/-- A property as a member of the wrapper, or the report why it cannot be one.  A static property
    with a body is neither. -/
def propertyMember (m : TraitMethod) : Except Diagnostic (Option WrapperMember) :=
  if !m.hasReceiver && m.hasDefault then .ok none
  else if !m.isGetter then .error ⟨.propertyShape, m.signature.span⟩
  else
    match m.property.ty with
    | none => .error ⟨.typeRequired .erasure, m.signature.span⟩
    | some ty =>
      if ty.mentionsSelf then .error ⟨.unforwardable .selfType, ty.span⟩
      else if ty.isReference || ty.isImplTrait then .error ⟨.propertyShape, ty.span⟩
      else .ok (some (.property m.signature ty))

/-- Why a method that takes the value itself cannot be forwarded. -/
def obstacle? (m : TraitMethod) : Option Unforwardable :=
  let s := m.signature
  if s.isUnsafe then some .unsafety
  else if !m.borrowsSelf then some .receiver
  else if s.isGeneric || s.isVariadic || s.allTypes.any Ty.isImplTrait then some .generic
  else if s.allTypes.any Ty.mentionsSelf then some .selfType
  else if s.outputType?.any Ty.isReference then some .borrowedReturn
  else if s.isAsync && s.inputTypes.any Ty.isReference then some .borrowedAsyncInput
  else none

/-- The name of an argument: the plain name it is bound to, else one made from its position. -/
def argumentName (i : Nat) (p : Pattern) : Ident :=
  match p.form with
  | .binding name false false => name
  | _ => { text := "__arg" ++ toString i }

/-- The arguments after the receiver, with their names and types. -/
def arguments (s : Signature) : List (Ident × Ty) :=
  let typed := s.inputs.values.filterMap fun
    | .typed _ pattern _ ty => some (pattern, ty)
    | .receiver .. => none
  typed.zipIdx.map fun ((pattern, ty), i) => (argumentName i pattern, ty)

/-- A method as a member of the wrapper, or the report why it cannot be one.  A function without a
    receiver that has a body is neither. -/
def methodMember (m : TraitMethod) : Except Diagnostic (Option WrapperMember) :=
  if !m.takesSelf then
    if m.hasDefault then .ok none
    else
      let reason := if !m.hasReceiver && m.returnsSelf then Unforwardable.initializer else .static
      .error ⟨.unforwardable reason, m.signature.span⟩
  else
    match m.obstacle? with
    | some reason => .error ⟨.unforwardable reason, m.signature.span⟩
    | none => .ok (some (.method m.signature (arguments m.signature)))

end TraitMethod

/-- A member of a trait as a member of the wrapper, or the report why it cannot be one.  Associated
    types are reported on their own. -/
def TraitItem.wrapperMember (item : TraitItem) : Except Diagnostic (Option WrapperMember) :=
  match item with
  | .method m => if m.isProperty then m.propertyMember else m.methodMember
  | .const _ _ hasValue _ =>
    if hasValue then .ok none else .error ⟨.unforwardable .constant, item.span⟩
  | .type .. => .ok none
  | .macroCall .. => .error ⟨.unforwardable .macroCall, item.span⟩
  | .verbatim _ => .error ⟨.unforwardable .macroCall, item.span⟩

/-- The report of an associated type. -/
def TraitItem.typeReport? (item : TraitItem) : Option Diagnostic :=
  match item with
  | .type .. => some ⟨.unforwardable .associatedType, item.span⟩
  | _ => none

/-! ## The wrapper -/

/-- A generated wrapper. -/
structure Wrapper where
  traitName : Ident
  name : Ident
  vis : Tokens
  unsafety : Tokens
  members : List WrapperMember

namespace WrapperMember

/-- The output that is written, or the empty tuple. -/
def outputTokens (s : Signature) : Tokens :=
  match s.output.ty? with
  | some ty => ty.tokens
  | none => [.parens []]

/-- The output of the stored closure: of an asynchronous method a boxed future. -/
def closureOutput (s : Signature) : Tokens :=
  if s.isAsync then
    Tokens.core ["pin", "Pin"] ++ Tokens.op "<" ++ Tokens.globalPath ["std", "boxed", "Box"]
      ++ Tokens.op "<" ++ .word "dyn" :: Tokens.core ["future", "Future"] ++ Tokens.op "<"
      ++ .word "Output" :: Tokens.op "=" ++ outputTokens s ++ Tokens.op ">>" ++ Tokens.op ">"
  else outputTokens s

/-- The shared pointer type of the standard library, or a function of it. -/
def arc (names : List String) : Tokens := Tokens.globalPath (["std", "sync", "Arc"] ++ names)

/-- The type of the stored closure. -/
def closureType (s : Signature) (args : List (Ident × Ty)) : Tokens :=
  arc [] ++ Tokens.op "<" ++ [.word "dyn", .word "Fn",
      .parens (Tokens.commaSeparated (args.map fun (_, ty) => ty.tokens))]
    ++ Tokens.op "->" ++ closureOutput s ++ Tokens.op ">"

/-- The field of the wrapper that holds the member. Properties are as visible as the wrapper. -/
def field (vis : Tokens) : WrapperMember → Tokens
  | .property s ty => vis ++ typedName s.name ty.tokens
  | .method s args => typedName s.name (closureType s args)

/-- The wrapped value. -/
def base : Token := .word "base"

/-- A method of the wrapped value, called as one of the trait. -/
def traitCall (traitName : Ident) (s : Signature) (arguments : Tokens) : Tokens :=
  Tokens.op "<" ++ [.word "T", .word "as", .ident traitName] ++ Tokens.op ">" ++ Tokens.op "::"
    ++ [.ident s.name, .parens arguments]

/-- The statement that shares the wrapped value once more. -/
def shareBase : Tokens :=
  [.word "let", base] ++ Tokens.op "=" ++ arc ["clone"] ++ [.parens (Tokens.op "&" ++ [base])]
    ++ Tokens.op ";"

/-- The statement that copies a property out. -/
def copy (traitName : Ident) (s : Signature) : Tokens :=
  [.word "let", .ident s.name] ++ Tokens.op "="
    ++ traitCall traitName s (Tokens.op "&" ++ [base]) ++ Tokens.op ";"

/-- The body of the stored closure. -/
def closureBody (traitName : Ident) (s : Signature) (args : List (Ident × Ty)) : Tokens :=
  let call := traitCall traitName s (Tokens.op "&" ++ Tokens.op "*" ++ base
    :: args.flatMap fun (name, _) => Tokens.op "," ++ [.ident name])
  if s.isAsync then
    shareBase ++ Tokens.globalPath ["std", "boxed", "Box", "pin"]
      ++ [.parens [.word "async", .word "move",
        .braces (call ++ Tokens.op "." ++ [.word "await"])]]
  else call

/-- The statement that makes the stored closure. -/
def capture (traitName : Ident) (s : Signature) (args : List (Ident × Ty)) : Tokens :=
  let params := Tokens.commaSeparated (args.map fun (name, ty) => typedName name ty.tokens)
  let closure := .word "move" :: Tokens.op "|" ++ params ++ Tokens.op "|" ++ Tokens.op "->"
    ++ closureOutput s ++ [.braces (closureBody traitName s args)]
  .word "let" :: typedName s.name (closureType s args) ++ Tokens.op "="
    ++ [.braces (shareBase ++ arc ["new"] ++ [.parens closure])] ++ Tokens.op ";"

/-- Inputs with each pattern after the receiver replaced by a plain name. -/
def rename : Separated FnArg → List Ident → Separated FnArg
  | [], _ => []
  | (.receiver attrs reference life mutability self, separator) :: rest, names =>
    (.receiver attrs reference life mutability self, separator) :: rename rest names
  | (.typed _ _ colon ty, separator) :: rest, name :: names =>
    let plain : Pattern :=
      { tokens := [.ident name], form := .binding name false false, binds := [name] }
    (.typed [] plain colon ty, separator) :: rename rest names
  | (.typed attrs pattern colon ty, separator) :: rest, [] =>
    (.typed attrs pattern colon ty, separator) :: rename rest []

/-- The signature of a forwarding method. -/
def forwardSignature (s : Signature) (args : List (Ident × Ty)) : Signature :=
  { s with inputs := rename s.inputs (args.map Prod.fst) }

/-- The method of the wrapper that answers for the member. -/
def forward : WrapperMember → Tokens
  | .property s _ =>
    s.tokens ++ [.braces (Tokens.core ["clone", "Clone", "clone"]
      ++ [.parens (Tokens.op "&" ++ Tokens.selfField s.name)])]
  | .method s args =>
    let awaited := if s.isAsync then Tokens.op "." ++ [.word "await"] else []
    (forwardSignature s args).tokens
      ++ [.braces ([.parens (Tokens.selfField s.name),
        .parens (Tokens.commaSeparated (args.map fun (name, _) => [.ident name]))] ++ awaited)]

end WrapperMember

namespace Wrapper

open WrapperMember

/-- The statements that copy the properties out. -/
def copies (w : Wrapper) : List Tokens :=
  w.members.filterMap fun
    | .property s _ => some (copy w.traitName s)
    | .method .. => none

/-- The statements that make the closures. -/
def captures (w : Wrapper) : List Tokens :=
  w.members.filterMap fun
    | .property .. => none
    | .method s args => some (capture w.traitName s args)

/-- The function that wraps a value. -/
def newFunction (w : Wrapper) : Function where
  vis := w.vis
  name := { text := "new" }
  generics := Tokens.op "<" ++ .word "T" :: Tokens.op ":" ++ .ident w.traitName :: Tokens.op "+"
    ++ Tokens.lifetime "static" ++ Tokens.op ">"
  params := base :: Tokens.op ":" ++ [.word "T"]
  output := [.word "Self"]
  body :=
    let share := if w.captures.isEmpty then []
      else [.word "let", base] ++ Tokens.op "=" ++ arc ["new"] ++ [.parens [base]] ++ Tokens.op ";"
    w.copies.flatten ++ share ++ w.captures.flatten
      ++ [.word "Self",
        .braces (Tokens.commaTerminated (w.members.map fun m => [.ident m.name]))]

/-- The code of a wrapper. -/
def tokens (w : Wrapper) : Tokens :=
  Tokens.attr [.word "derive", .parens [.word "Clone"]]
    ++ w.vis ++ [.word "struct", .ident w.name,
      .braces (Tokens.commaTerminated (w.members.map (field w.vis)))]
    ++ [.word "impl", .ident w.name, .braces w.newFunction.tokens]
    ++ w.unsafety ++ [.word "impl", .ident w.traitName, .word "for", .ident w.name,
      .braces (w.members.flatMap forward)]

/-- The trait has generic parameters, a where clause or supertraits. -/
def isGenericTrait (t : TraitDecl) : Bool :=
  !t.generics.params.isEmpty || t.generics.whereClause.isSome || !t.supertraits.isEmpty

/-- The members of a wrapper for a trait, in order. -/
def membersOf (t : TraitDecl) : List WrapperMember :=
  t.items.filterMap fun item =>
    match item.wrapperMember with
    | .ok member => member
    | .error _ => none

/-- What is reported about the members of a trait: its associated types, then its other members. -/
def reportsOf (t : TraitDecl) : List Diagnostic :=
  t.items.filterMap TraitItem.typeReport?
    ++ t.items.filterMap fun item =>
      match item.wrapperMember with
      | .ok _ => none
      | .error d => some d

/-- Expands the macro of wrappers.  A trait without properties gets no wrapper, and neither does one
    whose properties are all static with a body. -/
def expand (a : Attachment) (item : Item) : Except Crash (Expansion Wrapper) :=
  match item with
  | .trait t =>
    if isGenericTrait t then .ok (.report ⟨.genericTrait, t.name.span⟩)
    else if !t.methods.any TraitMethod.isProperty then .ok {}
    else if !(reportsOf t).isEmpty then .ok { diagnostics := reportsOf t }
    else if !(membersOf t).any WrapperMember.isProperty then .ok {}
    else do
      let name ← t.name.erasedName
      return { items := [{ traitName := t.name, name := name, vis := item.resolveAccess a.access,
                           unsafety := t.unsafety, members := membersOf t }] }
  | _ => .ok (.report ⟨.supportedTypes .erasure, .callSite⟩)

end Wrapper

end DeclMacros
