import DeclMacros.Access
import DeclMacros.Expansion
import DeclMacros.Property

/-! # Queries on declarations -/

set_option autoImplicit false

namespace DeclMacros

/-- The kinds of declaration that are told apart. -/
inductive DeclKind where
  | struct
  | enum
  | trait
  | union
  | other
deriving DecidableEq, Repr

/-- All kinds. -/
def DeclKind.all : List DeclKind := [.struct, .enum, .trait, .union, .other]

namespace Item

/-- The kind of an item. -/
def kind : Item → DeclKind
  | .struct _ => .struct
  | .enum _ => .enum
  | .trait _ => .trait
  | .union _ => .union
  | _ => .other

/-- The name of a type or trait. -/
def name? : Item → Option Ident
  | .struct s => some s.name
  | .enum e => some e.name
  | .trait t => some t.name
  | .union u => some u.name
  | _ => none

/-- The visibility of a type or trait. -/
def visibility? : Item → Option Visibility
  | .struct s => some s.vis
  | .enum e => some e.vis
  | .trait t => some t.vis
  | .union u => some u.vis
  | _ => none

/-- The access level of a type or trait. -/
def accessLevel? (item : Item) : Option AccessLevel :=
  item.visibility?.bind AccessLevel.ofVisibility?

/-- The generic parameters of a structure, enumeration or trait. -/
def generics? : Item → Option Generics
  | .struct s => some s.generics
  | .enum e => some e.generics
  | .trait t => some t.generics
  | _ => none

/-- The item is of this kind and has a name and generic parameters. -/
def supports (item : Item) (kind : DeclKind) : Bool :=
  item.kind = kind && item.name?.isSome && item.generics?.isSome

/-- The visibility of what is generated for an item: the level asked for, else that of the item,
    else its visibility as it is written. -/
def resolveAccess (explicit : Option AccessLevel) (item : Item) : Tokens :=
  match explicit <|> item.accessLevel? with
  | some level => level.tokens
  | none =>
    match item.visibility? with
    | some vis => vis.tokens
    | none => []

/-! ## Properties -/

/-- The properties of a structure or trait. -/
def properties : Item → Except Failure (List Property)
  | .struct s => s.fields.list.mapM Property.ofField
  | .trait t => .ok ((t.methods.filter TraitMethod.isProperty).map TraitMethod.property)
  | _ => .ok []

/-- The properties that hold data: stored, not static, and named.  Those without an explicit type
    are kept, so that they can be reported. -/
def storedProperties (item : Item) : Except Failure (List Property) := do
  return (← item.properties).filter fun p => p.isStored && !p.isStatic && p.name.isSome

/-- The named fields that carry no data. -/
def computedProperties (item : Item) : Except Failure (List Property) := do
  return (← item.properties).filter fun p => p.isComputed && p.name.isSome

/-! ## Members of traits -/

/-- The methods of a trait that are not properties. -/
def functions : Item → List TraitMethod
  | .trait t => t.methods.filter fun m => !m.isProperty
  | _ => []

/-- The functions of a trait without a receiver that return `Self`. -/
def initializers (item : Item) : List TraitMethod :=
  item.functions.filter fun m => !m.hasReceiver && m.returnsSelf

/-- The names of the associated types of a trait. -/
def associatedTypes : Item → List Ident
  | .trait t => t.items.filterMap fun
    | .type _ name _ => some name
    | _ => none
  | _ => []

end Item

/-- Separates properties with an explicit type from those without, which are reported. -/
def requireTypes (m : AttachedMacro) (properties : List Property) :
    List Property × List Diagnostic :=
  (properties.filter fun p => p.ty.isSome,
   (properties.filter fun p => p.ty.isNone).map fun p => ⟨.typeRequired m, p.span⟩)

end DeclMacros
