import DeclMacros.Attached
import DeclMacros.Grammar

/-! # Properties

    A property is a field of a structure, or a getter that a trait requires.  Its
    markers are read here. -/

set_option autoImplicit false

namespace DeclMacros

/-- The value of a field in a test value. -/
inductive StubMarker where
  /-- A given value. -/
  | value (e : Expr)
  /-- The test value of the field's own type. -/
  | delegate

/-- A field or a required getter, with what its markers say. -/
structure Property where
  name : Option Ident
  /-- The declared type; none when it was left to inference. -/
  ty : Option Ty
  attrs : List Attribute
  span : Span
  isStatic : Bool := false
  /-- The value when none is given. -/
  initial : Option Expr := none
  stub : Option StubMarker := none

/-- The type unless it was left to inference. -/
def Ty.explicit? (t : Ty) : Option Ty := if t.isInfer then none else some t

namespace Attribute

/-- The attribute is this marker. -/
def isMarker (a : Attribute) (m : Marker) : Bool := a.named m.name

/-- The arguments of an attribute read as an expression. -/
def exprArgument (a : Attribute) : Except Failure Expr :=
  Parser.attrArguments a ((phrasesFor a.arguments).expr true)

/-- The arguments of a stub marker: a value, or none. -/
def stubArgument (a : Attribute) : Except Failure StubMarker :=
  if a.arguments.isEmpty then .ok .delegate
  else Parser.attrArguments a do
    if ← Parser.atEnd then return .delegate
    else return .value (← (phrasesFor a.arguments).expr true)

end Attribute

namespace Property

/-- The property with what one more attribute says.  A later marker of a kind replaces an earlier
    one. -/
def withAttr (p : Property) (a : Attribute) : Except Failure Property := do
  if a.isMarker .default then return { p with initial := some (← a.exprArgument) }
  else if a.isMarker .stub then return { p with stub := some (← a.stubArgument) }
  else if a.isMarker .parseable && !a.arguments.isEmpty then
    throw (.fault { cause := .markerArguments, span := Tokens.span a.tokens })
  else return p

/-- The property of a field. The first malformed marker is reported. -/
def ofField (f : Field) : Except Failure Property :=
  f.attrs.foldlM withAttr
    { name := f.name, ty := f.ty.explicit?, attrs := f.attrs, span := f.span }

/-- A property is computed when it carries no data of its own. -/
def isComputed (p : Property) : Bool :=
  match p.ty with
  | some t => t.isPhantom
  | none => false

/-- A property that is not computed is stored. -/
def isStored (p : Property) : Bool := !p.isComputed

/-- The type of the value inside an optional property. -/
def optionInner? (p : Property) : Option Ty := p.ty.bind Ty.optionInner?

/-- A property whose value may be absent. -/
def isOptional (p : Property) : Bool := p.optionInner?.isSome

/-- The property is converted by its own type. -/
def recursiveParse (p : Property) : Bool := p.attrs.any (·.isMarker .parseable)

end Property

/-! ## Methods of traits -/

namespace TraitMethod

/-- The method reads a property. -/
def isProperty (m : TraitMethod) : Bool := m.attrs.any (·.isMarker .property)

/-- The first input of the method. -/
def firstInput? (m : TraitMethod) : Option FnArg := m.signature.inputs.values.head?

/-- The method has a receiver such as `&self`. -/
def hasReceiver (m : TraitMethod) : Bool :=
  match m.firstInput? with
  | some (.receiver ..) => true
  | _ => false

/-- The method has the receiver `&self`, possibly with a lifetime. -/
def borrowsSelf (m : TraitMethod) : Bool :=
  match m.firstInput? with
  | some (.receiver _ reference _ mutability _) => !reference.isEmpty && mutability.isEmpty
  | _ => false

/-- The first input is the value itself, as a receiver or as a parameter named `self`. -/
def takesSelf (m : TraitMethod) : Bool :=
  match m.firstInput? with
  | some (.receiver ..) => true
  | some (.typed _ pattern _ _) =>
    match pattern.form with
    | .binding name _ _ => name.is "self"
    | _ => false
  | none => false

/-- The method returns `Self`. -/
def returnsSelf (m : TraitMethod) : Bool :=
  match m.signature.output.ty? with
  | some ty => ty.isSelf
  | none => false

/-- The property that a getter reads. -/
def property (m : TraitMethod) : Property :=
  { name := some m.signature.name
    ty := m.signature.output.ty?.bind Ty.explicit?
    attrs := m.attrs
    span := m.signature.span
    isStatic := !m.hasReceiver }

end TraitMethod

end DeclMacros
