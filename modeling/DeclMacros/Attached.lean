import DeclMacros.Token.Basic

/-! # The attribute macros and the markers

    Six macros are attached to a declaration.  They read markers on its fields and
    methods; a marker is consumed once no macro that reads it is still attached. -/

set_option autoImplicit false

namespace DeclMacros

/-- The macros that are attached to a declaration. -/
inductive AttachedMacro where
  /-- A constructor with a parameter for each field. -/
  | constructor
  /-- A builder with a setter for each field. -/
  | builder
  /-- A conversion from a raw type. -/
  | conversion
  /-- A factory of test values. -/
  | stub
  /-- A wrapper that hides the implementor of a trait. -/
  | erasure
  /-- Checks and accessors for the variants of an enumeration. -/
  | accessors
deriving DecidableEq, Repr

namespace AttachedMacro

/-- The name under which the macro is attached. -/
def name : AttachedMacro → String
  | .constructor => "auto_init"
  | .builder => "auto_builder"
  | .conversion => "auto_parse"
  | .stub => "auto_stub"
  | .erasure => "auto_type_erase"
  | .accessors => "enum_properties"

/-- All macros. -/
def all : List AttachedMacro := [.constructor, .builder, .conversion, .stub, .erasure, .accessors]

/-- The macro of a name. -/
def ofName? (name : String) : Option AttachedMacro :=
  all.find? fun m => m.name = name

/-- What the macro can be attached to. -/
def target : AttachedMacro → String
  | .erasure => "traits"
  | .accessors => "enums"
  | _ => "structs"

end AttachedMacro

/-- Marks on fields and methods, which carry data for the macros. -/
inductive Marker where
  /-- The value of a field that is not given. -/
  | default
  /-- The value of a field in a test value. -/
  | stub
  /-- The field is converted by its own type. -/
  | parseable
  /-- The method reads a property. -/
  | property
deriving DecidableEq, Repr

namespace Marker

/-- The name of the attribute. -/
def name : Marker → String
  | .default => "default"
  | .stub => "stub"
  | .parseable => "auto_parseable"
  | .property => "property"

/-- All markers. -/
def all : List Marker := [.default, .stub, .parseable, .property]

/-- The macros that read the marker. -/
def consumers : Marker → List AttachedMacro
  | .default => [.constructor, .builder, .stub]
  | .stub => [.stub]
  | .parseable => [.conversion]
  | .property => [.erasure]

end Marker

end DeclMacros
