import DeclMacros.Accessors
import DeclMacros.Value

/-! # The meaning of accessors for variants

    A check looks at the variant of a value only.  A payload accessor matches the
    value against the pattern of its variant and returns what the pattern binds. -/

set_option autoImplicit false

namespace DeclMacros

namespace VariantAccess

/-- What the check answers. -/
def holds (a : VariantAccess) (v : Value) : Bool :=
  v.tag? == some a.variant.name.text

/-- What the fields of a pattern bind, if the fields of the value fit them. -/
def FieldPattern.bind? : FieldPattern → Value → Option (List (String × Value))
  | .named fields, .record _ values =>
    fields.mapM fun (label, name) => (values.lookup label.text).map fun v => (name.text, v)
  | .tuple names, .tuple _ values =>
    if names.length = values.length then some ((names.map Ident.text).zip values) else none
  | _, _ => none

/-- One value as it is, more than one as a tuple. -/
def payloadOf : List Value → Value
  | [v] => v
  | vs => .tuple "" vs

/-- What the payload accessor answers. -/
def payload? (a : VariantAccess) (v : Value) : Option Value := do
  if a.holds v then
    let bound ← a.pattern.bind? v
    return payloadOf (← a.bindings.mapM fun name => bound.lookup name.text)
  else none

end VariantAccess

end DeclMacros
