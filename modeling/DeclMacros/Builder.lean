import DeclMacros.Code.Target
import DeclMacros.Name

/-! # Builders

    A builder has a setter for each stored property and a `build` that fails when a
    required one was not set.  A property with a value of its own starts with it. -/

set_option autoImplicit false

namespace DeclMacros

/-- How a builder holds one property. -/
inductive Slot where
  /-- Starts with a given value. -/
  | defaulted (e : Expr)
  /-- Starts absent, as the property itself may be. -/
  | optional
  /-- Must be set. -/
  | required

/-- A field of a builder. -/
structure BuilderField where
  name : Ident
  ty : Ty
  slot : Slot

namespace BuilderField

/-- The builder field of a property, if it has a name and a type. -/
def ofProperty? (p : Property) : Option BuilderField := do
  let slot := match p.initial with
    | some e => Slot.defaulted e
    | none => if p.isOptional then .optional else .required
  return { name := ← p.name, ty := ← p.ty, slot := slot }

/-- The property must be set. -/
def isRequired (f : BuilderField) : Bool :=
  match f.slot with
  | .required => true
  | _ => false

/-- The declared type of the builder's own field. -/
def storedType (f : BuilderField) : Tokens :=
  if f.isRequired then Tokens.optionOf f.ty.tokens else f.ty.tokens

/-- The value with which the builder starts. -/
def init (f : BuilderField) : FieldInit :=
  match f.slot with
  | .defaulted e => ⟨f.name, .initial (.given e)⟩
  | _ => ⟨f.name, .initial .absent⟩

/-- The setter of the property. -/
def setter (f : BuilderField) : Setter :=
  { name := f.name, field := f.name, ty := f.ty, wraps := f.isRequired }

/-- The value that the built structure gets. -/
def built (f : BuilderField) : FieldInit :=
  ⟨f.name, if f.isRequired then .required else .stored⟩

end BuilderField

/-- A generated builder. -/
structure Builder where
  name : Ident
  target : Target
  vis : Tokens
  fields : List BuilderField
  phantoms : List Ident

namespace Builder

/-- The builder of a structure. -/
def ofTarget (t : StructTarget) : Except Crash Builder := do
  return { name := ← t.target.name.builderName, target := t.target, vis := t.vis,
           fields := t.properties.filterMap BuilderField.ofProperty?, phantoms := t.phantoms }

/-- The target as the builder's own type. -/
def self (b : Builder) : Target := ⟨b.name, b.target.generics⟩

/-- The name of the field that mentions the target.  Generic parameters may occur in skipped fields
    only, so a generic builder mentions its target. -/
def markerName : Ident := { text := "_target" }

/-- The target is generic. -/
def isGeneric (b : Builder) : Bool := !b.target.generics.params.isEmpty

/-- The fields that the builder declares, with their types. -/
def declared (b : Builder) : List (Ident × Tokens) :=
  let marker := Tokens.core ["marker", "PhantomData"] ++ Tokens.op "<"
    ++ [.word "fn", .parens []] ++ Tokens.op "->" ++ b.target.applied ++ Tokens.op ">"
  b.fields.map (fun f => (f.name, f.storedType))
    ++ (if b.isGeneric then [(markerName, marker)] else [])

/-- The literal with which a builder starts. -/
def initial (b : Builder) : List FieldInit :=
  b.fields.map BuilderField.init ++ phantomInits (if b.isGeneric then [markerName] else [])

/-- The setters. -/
def setters (b : Builder) : List Setter := b.fields.map BuilderField.setter

/-- The literal that `build` makes. -/
def built (b : Builder) : List FieldInit :=
  b.fields.map BuilderField.built ++ phantomInits b.phantoms

/-- The result type of `build`. -/
def resultType (b : Builder) : Tokens :=
  Tokens.core ["result", "Result"] ++ Tokens.op "<" ++ b.target.applied ++ Tokens.op ","
    ++ Tokens.globalPath ["brewery", "BuildError"] ++ Tokens.op ">"

/-- The functions of the builder. -/
def functions (b : Builder) : List Function :=
  { vis := b.vis, name := { text := "new" }, output := [.word "Self"],
    body := structLiteral (.word "Self") b.initial }
  :: b.setters.map (Setter.function b.vis)
  ++ [{ vis := b.vis, name := { text := "build" }, params := [.word "self"],
        output := b.resultType,
        body := Tokens.core ["result", "Result", "Ok"]
          ++ [.parens (structLiteral (.ident b.target.name) b.built)] }]

/-- The structure that holds the builder's fields. -/
def structTokens (b : Builder) : Tokens :=
  b.vis ++ [.word "struct", .ident b.name] ++ b.target.generics.tokens
    ++ b.target.generics.whereTokens
    ++ [.braces (Tokens.commaTerminated (b.declared.map fun (name, ty) => typedName name ty))]

/-- The default of a builder is a new one. -/
def defaultFunction : Function :=
  { name := { text := "default" }, output := [.word "Self"],
    body := .word "Self" :: Tokens.op "::" ++ [.word "new", .parens []] }

/-- The function of the target that makes a builder. -/
def entryFunction (b : Builder) : Function :=
  { vis := b.vis, name := { text := "builder" }, output := b.self.applied,
    body := .ident b.name :: Tokens.op "::" ++ [.word "new", .parens []] }

/-- The code of a builder. -/
def tokens (b : Builder) : Tokens :=
  b.structTokens
    ++ b.self.implBlock (b.functions.flatMap Function.tokens)
    ++ b.self.implTraitBlock (Tokens.core ["default", "Default"]) defaultFunction.tokens
    ++ b.target.implBlock b.entryFunction.tokens

/-- Expands the macro of builders. -/
def expand (a : Attachment) (item : Item) : Except Crash (Expansion Builder) :=
  expandStruct .builder a item ofTarget

end Builder

end DeclMacros
