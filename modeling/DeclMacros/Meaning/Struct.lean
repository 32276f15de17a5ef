import DeclMacros.Builder
import DeclMacros.Constructor
import DeclMacros.Conversion
import DeclMacros.Meaning.Literal

/-! # The meaning of code generated for structures

    What the generated functions of a constructor, a builder and a conversion compute.
    -/

set_option autoImplicit false

namespace DeclMacros

namespace Constructor

/-- Calls the constructor with a value for each parameter. -/
def call (s : Surroundings) (c : Constructor) (arguments : List Value) : Except Halt Value :=
  if arguments.length = c.inputs.length then
    let parameters := (c.inputs.map fun p => p.name.text).zip arguments
    literalValue s { parameters := parameters } c.target.name c.literal
  else .error (.undefined c.kind.function)

end Constructor

namespace Builder

/-- A new builder. -/
def start (s : Surroundings) (b : Builder) : Except Halt Value :=
  literalValue s {} b.name b.initial

/-- Builds from the fields that are set. -/
def build (s : Surroundings) (b : Builder) (self : Value) : Except Halt Value :=
  literalValue s { self := self } b.target.name b.built

/-- A new builder, calls of setters, and `build`. -/
def run (s : Surroundings) (b : Builder) (calls : List (String × Value)) : Except Halt Value := do
  let started ← b.start s
  let self ← Setter.callAll b.setters calls started
  b.build s self

end Builder

namespace Conversion

/-- The functions under which a conversion can be called. -/
inductive Entry where
  | fromRaw
  | parse
  | convert
deriving DecidableEq, Repr

/-- Converts a raw value. -/
def call (s : Surroundings) (c : Conversion) (raw : Value) : Except Halt Value :=
  literalValue s { raw := raw } c.target.name c.literal

/-- Converts a raw value by one of the functions; the other two call the one that does the work. -/
def enter (s : Surroundings) (c : Conversion) (entry : Entry) (raw : Value) : Except Halt Value :=
  match entry with
  | .fromRaw => c.call s raw
  | .parse => c.call s raw
  | .convert => c.call s raw

end Conversion

end DeclMacros
