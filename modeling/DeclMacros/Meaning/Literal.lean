import DeclMacros.BuildError
import DeclMacros.Code.Basic
import DeclMacros.Container

/-! # The meaning of generated literals

    Generated code uses functions and expressions that stand elsewhere; a
    `Surroundings` says what they mean.  Given that, each form of field value has a
    meaning, and a structure literal means the record of its fields, computed from the
    first to the last. -/

set_option autoImplicit false

namespace DeclMacros

/-- What the code around generated code means. -/
structure Surroundings where
  /-- The value of an expression without free names. -/
  constant : Expr → Value
  /-- The test value of a type. -/
  stubOf : Ty → Value
  /-- The conversion to a type that is not a container. -/
  convert : Ty → Value → Value

/-- The conversion to a type, which goes through containers. -/
def Surroundings.parse (s : Surroundings) (ty : Ty) (v : Value) : Value :=
  let (containers, leaf) := ty.layers
  Container.parse (s.convert leaf) containers v

/-- Why a computation has no value. -/
inductive Halt where
  /-- The code returned early, with this error. -/
  | failed (e : BuildError)
  /-- The code uses a name that is not there, or a value that does not fit. -/
  | undefined (name : String)
deriving DecidableEq, Repr

/-- The values that a function body finds under the names of its inputs. -/
structure Frame where
  parameters : List (String × Value) := []
  /-- The receiver. -/
  self : Value := .absent
  /-- The raw value that is converted. -/
  raw : Value := .absent

/-- A value that has to be there under a name. -/
def Halt.orUndefined (name : Ident) : Option Value → Except Halt Value
  | some v => .ok v
  | none => .error (.undefined name.text)

/-- The value that generated code supplies by itself. -/
def Initial.eval (s : Surroundings) : Initial → Value
  | .given e => s.constant e
  | .absent => .absent
  | .stubOf ty => s.stubOf ty
  | .presentStub inner => .present (s.stubOf inner)

/-- The value of a field. -/
def FieldValue.eval (s : Surroundings) (frame : Frame) (name : Ident) :
    FieldValue → Except Halt Value
  | .parameter => Halt.orUndefined name (frame.parameters.lookup name.text)
  | .initial i => .ok (i.eval s)
  | .phantom => .ok .phantom
  | .stored => Halt.orUndefined name (frame.self.field? name.text)
  | .required =>
    match frame.self.field? name.text with
    | some (.present v) => .ok v
    | some .absent => .error (.failed (.missingField name.display))
    | _ => .error (.undefined name.text)
  | .raw => rawField
  | .parsed ty => rawField.map (s.parse ty)
  | .mapParsed inner => rawField.map (Container.option.map (s.parse inner))
where
  /-- The field of the raw value. -/
  rawField : Except Halt Value := Halt.orUndefined name (frame.raw.field? name.text)

/-- The value of a field under its name. -/
def FieldInit.eval (s : Surroundings) (frame : Frame) (f : FieldInit) :
    Except Halt (String × Value) :=
  (f.value.eval s frame f.name).map fun v => (f.name.text, v)

/-- The record that a literal makes, or the first failure among its fields. -/
def literalValue (s : Surroundings) (frame : Frame) (name : Ident) (fields : List FieldInit) :
    Except Halt Value :=
  (fields.mapM (FieldInit.eval s frame)).map (.record name.text)

/-- What a setter does to its receiver. -/
def Setter.set (s : Setter) (self v : Value) : Value :=
  self.setField s.field.text (if s.wraps then .present v else v)

/-- Calls the setter of a name. -/
def Setter.call (setters : List Setter) (name : String) (self v : Value) : Except Halt Value :=
  match setters.find? fun s => s.name.text = name with
  | some s => .ok (s.set self v)
  | none => .error (.undefined name)

/-- Calls setters one after the other. -/
def Setter.callAll (setters : List Setter) : List (String × Value) → Value → Except Halt Value
  | [], self => .ok self
  | (name, v) :: rest, self => Setter.call setters name self v >>= callAll setters rest

end DeclMacros
