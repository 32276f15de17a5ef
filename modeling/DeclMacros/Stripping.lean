import DeclMacros.Attached
import DeclMacros.Tree.Item

/-! # Removing consumed markers

    Each macro emits the declaration again.  A marker on a field or a method goes once
    no macro that reads it is still attached; everything else stays. -/

set_option autoImplicit false

namespace DeclMacros

/-- The macro is among the attributes. -/
def AttachedMacro.isAmong (m : AttachedMacro) (attrs : List Attribute) : Bool :=
  attrs.any (·.named m.name)

/-- No macro among the attributes reads the marker any more. -/
def Marker.isConsumed (m : Marker) (attrs : List Attribute) : Bool :=
  !m.consumers.any (·.isAmong attrs)

/-- The attribute is a marker that no remaining macro reads. -/
def Attribute.isConsumed (remaining : List Attribute) (a : Attribute) : Bool :=
  Marker.all.any fun m => m.isConsumed remaining && a.named m.name

/-- The attributes without the consumed markers. -/
def Attribute.retained (remaining attrs : List Attribute) : List Attribute :=
  attrs.filter fun a => !a.isConsumed remaining

namespace Item

/-- The macro is still attached to a structure, enumeration or trait. -/
def isPending (item : Item) (m : AttachedMacro) : Bool :=
  match item with
  | .struct s => m.isAmong s.attrs
  | .trait t => m.isAmong t.attrs
  | .enum e => m.isAmong e.attrs
  | _ => false

/-- The item without the consumed markers on the fields of a structure and the methods of a trait.
    -/
def stripped : Item → Item
  | .struct s =>
    .struct { s with
      fields := s.fields.map fun f => { f with attrs := Attribute.retained s.attrs f.attrs } }
  | .trait t =>
    .trait { t with
      items := t.items.map fun
        | .method m => .method { m with attrs := Attribute.retained t.attrs m.attrs }
        | member => member }
  | item => item

end Item

end DeclMacros
