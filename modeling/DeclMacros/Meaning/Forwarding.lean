import DeclMacros.Value
import DeclMacros.Wrapper

/-! # The meaning of wrappers

    An implementor of a trait answers calls of its methods.  A wrapper of an
    implementor keeps a copy of each property and a closure for each other method, and
    is an implementor again. -/

set_option autoImplicit false

namespace DeclMacros

/-- What becomes of a call. -/
inductive Reply where
  | value (v : Value)
  /-- The method stops with a crash. -/
  | crashed (c : Crash)
  /-- There is no such method, or not with these arguments. -/
  | refused

/-- A value that implements a trait: what it answers to a method with its arguments. -/
abbrev Implementor := String → List Value → Reply

/-- What a wrapper keeps for a member. -/
inductive Kept where
  /-- A property, as it was when the wrapper was made. -/
  | copied (r : Reply)
  /-- A closure with its parameters in order. -/
  | closure (f : List Value → Reply)

/-- A wrapped implementor: its fields by name. -/
abbrev Wrapped := List (String × Kept)

namespace WrapperMember

/-- The arguments that a call by name passes on: each parameter is looked up under its name. -/
def passedOn (args : List (Ident × Ty)) (values : List Value) : List Value :=
  let bound := (args.map fun arg => arg.1.text).zip values
  args.filterMap fun arg => bound.lookup arg.1.text

/-- What the wrapper keeps for a member. -/
def keep (base : Implementor) : WrapperMember → String × Kept
  | .property s _ => (s.name.text, .copied (base s.name.text []))
  | .method s args =>
    (s.name.text, .closure fun values => base s.name.text (passedOn args values))

/-- What the method of the wrapper answers for a member. -/
def answer (fields : Wrapped) (values : List Value) : WrapperMember → Reply
  | .property s _ =>
    match fields.lookup s.name.text with
    | some (.copied r) => r
    | _ => .refused
  | .method s args =>
    match fields.lookup s.name.text with
    | some (.closure f) => f (passedOn args values)
    | _ => .refused

end WrapperMember

namespace Wrapper

/-- Wraps an implementor. -/
def wrap (w : Wrapper) (base : Implementor) : Wrapped :=
  w.members.map (WrapperMember.keep base)

/-- The wrapped value as an implementor: it answers exactly the members of the wrapper. -/
def implementor (w : Wrapper) (fields : Wrapped) : Implementor := fun method values =>
  match w.members.find? fun m => m.name.text = method with
  | some m => m.answer fields values
  | none => .refused

end Wrapper

/-- What a field holds that keeps a property. -/
def Wrapped.property (fields : Wrapped) (name : String) : Reply :=
  match fields.lookup name with
  | some (.copied r) => r
  | _ => .refused

end DeclMacros
