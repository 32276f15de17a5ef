import DeclMacros.Text.Quoted

/-! # Values

    The values that generated code works on.  A structure is a record; a value of an
    enumeration is a record or a tuple under the name of its variant. -/

set_option autoImplicit false

namespace DeclMacros

/-- A value. -/
inductive Value where
  | text (s : String)
  | number (n : Int)
  | flag (b : Bool)
  | absent
  | present (v : Value)
  | list (vs : List Value)
  | boxed (v : Value)
  /-- The value of a field that carries no data. -/
  | phantom
  | record (name : String) (fields : List (String × Value))
  | tuple (name : String) (values : List Value)
deriving Inhabited

namespace Value

/-! ## Equality -/

mutual

/-- The values are equal. -/
def same : Value → Value → Bool
  | .text a, .text b => a == b
  | .number a, .number b => a == b
  | .flag a, .flag b => a == b
  | .absent, .absent => true
  | .present a, .present b => a.same b
  | .list a, .list b => sameAll a b
  | .boxed a, .boxed b => a.same b
  | .phantom, .phantom => true
  | .record n a, .record m b => n == m && sameFields a b
  | .tuple n a, .tuple m b => n == m && sameAll a b
  | _, _ => false

/-- The values are equal one by one. -/
def sameAll : List Value → List Value → Bool
  | [], [] => true
  | a :: as, b :: bs => a.same b && sameAll as bs
  | _, _ => false

/-- The fields are equal one by one. -/
def sameFields : List (String × Value) → List (String × Value) → Bool
  | [], [] => true
  | (n, a) :: as, (m, b) :: bs => n == m && a.same b && sameFields as bs
  | _, _ => false

end

/-! ## Inspection -/

/-- The texts one after the other, with a comma between them. -/
def listed (parts : List String) : String := ", ".intercalate parts

/-- A name with its parts; without parts the name stands alone. -/
def applied (name before : String) (parts : List String) (after : String) : String :=
  if parts.isEmpty then name else name ++ before ++ listed parts ++ after

mutual

/-- The form for inspection, on one line. -/
def inspected : Value → String
  | .text s => Text.debugQuoted s
  | .number n => toString n
  | .flag b => if b then "true" else "false"
  | .absent => "None"
  | .present v => "Some(" ++ v.inspected ++ ")"
  | .list vs => "[" ++ listed (inspectedAll vs) ++ "]"
  | .boxed v => v.inspected
  | .phantom => "PhantomData"
  | .record name fields => applied name " \x7b " (inspectedFields fields) " \x7d"
  | .tuple name values => applied name "(" (inspectedAll values) ")"

/-- The forms of values. -/
def inspectedAll : List Value → List String
  | [] => []
  | v :: vs => v.inspected :: inspectedAll vs

/-- The forms of fields with their names. -/
def inspectedFields : List (String × Value) → List String
  | [] => []
  | (name, v) :: rest => (name ++ ": " ++ v.inspected) :: inspectedFields rest

end

/-! ## Fields -/

/-- The fields of a record. -/
def fields : Value → List (String × Value)
  | .record _ fields => fields
  | _ => []

/-- The field of a name. -/
def field? (v : Value) (name : String) : Option Value := v.fields.lookup name

/-- The same value with another value in the field of a name. -/
def setField (v : Value) (name : String) (new : Value) : Value :=
  match v with
  | .record n fields => .record n (fields.map fun f => if f.1 = name then (f.1, new) else f)
  | v => v

/-- The name of the structure or variant. -/
def tag? : Value → Option String
  | .record name _ => some name
  | .tuple name _ => some name
  | _ => none

end Value

end DeclMacros
