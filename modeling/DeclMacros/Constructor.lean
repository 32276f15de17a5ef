import DeclMacros.Code.Target
import DeclMacros.Name
import DeclMacros.Stripping

/-! # Constructors and test factories

    Both take the stored properties without a value of their own as parameters and
    fill in the rest.  They differ in what counts as a value: a test factory reads
    stub markers as well.  Each filled-in field gets a setter, unless the other macro
    is still attached and will emit the same one. -/

set_option autoImplicit false

namespace DeclMacros

/-- A parameter of a generated constructor; `initial` is the value when the caller gives none. -/
structure Parameter where
  name : Ident
  ty : Ty
  initial : Option Initial

namespace Parameter

/-- The caller must give a value. -/
def isRequired (p : Parameter) : Bool := p.initial.isNone

/-- The parameter of a property, if it has a name and a type. -/
def ofProperty? (initial : Property → Option Initial) (p : Property) : Option Parameter := do
  return { name := ← p.name, ty := ← p.ty, initial := initial p }

/-- The field of a literal that the parameter initialises. -/
def init (p : Parameter) : FieldInit :=
  match p.initial with
  | some i => ⟨p.name, .initial i⟩
  | none => ⟨p.name, .parameter⟩

/-- The setter that replaces a filled-in value. -/
def setter (p : Parameter) : Setter :=
  { name := p.name.setterName, field := p.name, ty := p.ty }

/-- The parameters that a caller must give, as they are declared. -/
def inputTokens (params : List Parameter) : Tokens :=
  Tokens.commaSeparated
    ((params.filter isRequired).map fun p => typedName p.name p.ty.tokens)

/-- The parameter is filled in by one of the others as well. -/
def isCovered (covered : List Parameter) (p : Parameter) : Bool :=
  covered.any fun c => !c.isRequired && c.name.same p.name

/-- The setters for the filled-in parameters that the others do not cover. -/
def setters (params covered : List Parameter) : List Setter :=
  (params.filter fun p => !p.isRequired && !p.isCovered covered).map setter

end Parameter

namespace Property

/-- The value that a property carries by itself: a given one, or absence for an optional one. -/
def ownInitial (p : Property) : Option Initial :=
  match p.initial with
  | some e => some (.given e)
  | none => if p.isOptional then some .absent else none

/-- The value of a property in a test value: its stub marker, else its own. -/
def stubInitial (p : Property) : Option Initial :=
  match p.stub, p.ty with
  | some (.value e), _ => some (.given e)
  | some .delegate, some ty =>
    match ty.optionInner? with
    | some inner => some (.presentStub inner)
    | none => some (.stubOf ty)
  | _, _ => p.ownInitial

end Property

/-- The two kinds of constructor. -/
inductive ConstructorKind where
  | memberwise
  | stub
deriving DecidableEq, Repr

namespace ConstructorKind

/-- The macro that generates the constructor. -/
def attached : ConstructorKind → AttachedMacro
  | .memberwise => .constructor
  | .stub => .stub

/-- The other kind, with which setters are shared. -/
def sibling : ConstructorKind → ConstructorKind
  | .memberwise => .stub
  | .stub => .memberwise

/-- The name of the generated function. -/
def function : ConstructorKind → String
  | .memberwise => "new"
  | .stub => "stub"

/-- Where the values come from that the caller does not give. -/
def initial : ConstructorKind → Property → Option Initial
  | .memberwise => Property.ownInitial
  | .stub => Property.stubInitial

/-- The parameters of a constructor in declaration order. -/
def parameters (k : ConstructorKind) (properties : List Property) : List Parameter :=
  properties.filterMap (Parameter.ofProperty? k.initial)

end ConstructorKind

/-- A generated constructor with the setters for the fields that it fills in. -/
structure Constructor where
  kind : ConstructorKind
  target : Target
  vis : Tokens
  params : List Parameter
  phantoms : List Ident
  setters : List Setter

namespace Constructor

/-- The constructor of a structure. -/
def ofTarget (kind : ConstructorKind) (t : StructTarget) : Constructor :=
  let params := kind.parameters t.properties
  let covered :=
    if t.item.isPending kind.sibling.attached then kind.sibling.parameters t.properties else []
  { kind := kind, target := t.target, vis := t.vis, params := params, phantoms := t.phantoms,
    setters := Parameter.setters params covered }

/-- The structure literal of the constructor. -/
def literal (c : Constructor) : List FieldInit :=
  c.params.map Parameter.init ++ phantomInits c.phantoms

/-- The parameters that a caller gives. -/
def inputs (c : Constructor) : List Parameter := c.params.filter Parameter.isRequired

/-- The function of the constructor. -/
def function (c : Constructor) : Function where
  attrs := match c.kind with
    | .memberwise => Tokens.attr [.word "inline"]
    | .stub => []
  vis := c.vis
  name := { text := c.kind.function }
  params := Parameter.inputTokens c.params
  output := [.word "Self"]
  body := structLiteral (.word "Self") c.literal

/-- The code of a constructor. -/
def tokens (c : Constructor) : Tokens :=
  c.target.implBlock
    (c.function.tokens ++ (c.setters.map (Setter.function c.vis)).flatMap Function.tokens)

/-- Expands the macro of a constructor. -/
def expand (kind : ConstructorKind) (a : Attachment) (item : Item) :
    Except Crash (Expansion Constructor) :=
  expandStruct kind.attached a item fun t => .ok (ofTarget kind t)

end Constructor

end DeclMacros
