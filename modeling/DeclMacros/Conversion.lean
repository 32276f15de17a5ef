import DeclMacros.Code.Target

/-! # Conversions from raw types

    A conversion copies each stored property from the field of the same name of a raw
    value.  A marked property is converted by its own type, inside the optional value
    if it is one. -/

set_option autoImplicit false

namespace DeclMacros

/-- The field of the literal that a conversion makes for a property. -/
def Property.conversion? (p : Property) : Option FieldInit := do
  let name ← p.name
  let ty ← p.ty
  let value :=
    if !p.recursiveParse then FieldValue.raw
    else
      match ty.optionInner? with
      | some inner => .mapParsed inner
      | none => .parsed ty
  return ⟨name, value⟩

/-- A generated conversion. -/
structure Conversion where
  target : Target
  vis : Tokens
  /-- The type that is converted from. -/
  source : Ty
  values : List FieldInit
  phantoms : List Ident

namespace Conversion

/-- The conversion of a structure. -/
def ofTarget (source : Ty) (t : StructTarget) : Conversion :=
  { target := t.target, vis := t.vis, source := source,
    values := t.properties.filterMap Property.conversion?, phantoms := t.phantoms }

/-- The literal that the conversion makes. -/
def literal (c : Conversion) : List FieldInit := c.values ++ phantomInits c.phantoms

/-- The parameter of the conversion. -/
def parameter (c : Conversion) : Tokens := typedName { text := "raw" } c.source.tokens

/-- The function that does the work. -/
def function (c : Conversion) : Function :=
  { vis := c.vis, name := { text := "from_raw" }, params := c.parameter, output := [.word "Self"],
    body := structLiteral (.word "Self") c.literal }

/-- A function of this name that calls it. -/
def delegate (c : Conversion) (name : String) : Function :=
  { attrs := Tokens.attr [.word "inline"], name := { text := name }, params := c.parameter,
    output := [.word "Self"],
    body := .word "Self" :: Tokens.op "::" ++ [.word "from_raw", .parens [.word "raw"]] }

/-- The code of a conversion. -/
def tokens (c : Conversion) : Tokens :=
  let rawType := [.word "type", .word "Raw"] ++ Tokens.op "=" ++ c.source.tokens ++ Tokens.op ";"
  let fromTrait := Tokens.core ["convert", "From"] ++ Tokens.op "<" ++ c.source.tokens
    ++ Tokens.op ">"
  c.target.implBlock c.function.tokens
    ++ c.target.implTraitBlock (Tokens.globalPath ["brewery", "AutoParseable"])
      (rawType ++ (c.delegate "parse").tokens)
    ++ c.target.implTraitBlock fromTrait (c.delegate "from").tokens

/-- Expands the macro of conversions. Without a source type nothing else is reported. -/
def expand (a : Attachment) (item : Item) : Except Crash (Expansion Conversion) :=
  match item, a.source with
  | .struct _, some source => expandStruct .conversion a item fun t => .ok (ofTarget source t)
  | .struct _, none => .ok (.report ⟨.noRawType, .callSite⟩)
  | _, _ => .ok (.report ⟨.supportedTypes .conversion, .callSite⟩)

end Conversion

end DeclMacros
