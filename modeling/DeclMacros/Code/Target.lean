import DeclMacros.Attachment
import DeclMacros.Code.Basic
import DeclMacros.Declaration

/-! # Macros on structures

    Four macros generate code from the stored properties of a structure.  What they
    have in common is here: the kind of the declaration is checked, a malformed marker
    is reported, properties without an explicit type are reported and left out, and
    nothing is generated when no property is left. -/

set_option autoImplicit false

namespace DeclMacros

/-- What a macro on a structure generates from. -/
structure StructTarget where
  item : Item
  target : Target
  vis : Tokens
  /-- The stored properties with an explicit type. -/
  properties : List Property
  /-- The names of the fields that carry no data. -/
  phantoms : List Ident

/-- Turns a fault in the source into a report; a crash stays one. -/
def Except.reported {α β : Type} (r : Except Failure α) (k : α → Except Crash (Expansion β)) :
    Except Crash (Expansion β) :=
  match r with
  | .ok a => k a
  | .error (.fault f) => .ok (.report (.ofFault f))
  | .error (.crash c) => .error c

/-- Expands a macro on a structure, given how it generates code from the properties. -/
def expandStruct {α : Type} (m : AttachedMacro) (a : Attachment) (item : Item)
    (generate : StructTarget → Except Crash α) : Except Crash (Expansion α) :=
  match item with
  | .struct s =>
    Except.reported item.storedProperties fun stored =>
    Except.reported item.computedProperties fun computed =>
      let (properties, missing) := requireTypes m stored
      if properties.isEmpty then .ok { diagnostics := missing }
      else do
        let generated ← generate
          { item := item, target := ⟨s.name, s.generics⟩, vis := item.resolveAccess a.access,
            properties := properties, phantoms := computed.filterMap Property.name }
        return { items := [generated], diagnostics := missing }
  | _ => .ok (.report ⟨.supportedTypes m, .callSite⟩)

/-- The literal fields that carry no data. -/
def phantomInits (names : List Ident) : List FieldInit :=
  names.map fun name => ⟨name, .phantom⟩

end DeclMacros
