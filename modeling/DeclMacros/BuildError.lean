import DeclMacros.Text.Quoted

/-! # Failures of builders

    A builder fails when a required field was never set; the failure carries the
    field's name. -/

set_option autoImplicit false

namespace DeclMacros

/-- Why a builder did not build. -/
inductive BuildError where
  /-- The field was not set. -/
  | missingField (name : String)
deriving DecidableEq, Repr

namespace BuildError

/-- The message for the user. -/
def message : BuildError → String
  | .missingField name => "tried to build without setting required field `" ++ name ++ "`"

/-- The form for inspection. -/
def inspected : BuildError → String
  | .missingField name => "MissingField(" ++ Text.debugQuoted name ++ ")"

end BuildError

end DeclMacros
