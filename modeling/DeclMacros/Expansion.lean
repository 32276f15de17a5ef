import DeclMacros.Attached
import DeclMacros.Grammar.Fault
import DeclMacros.Text.Quoted

/-! # Expansions

    The result of a macro: what it generates, and what it reports.  A report has a
    cause and a place; its identifier, wording and severity follow from the cause. -/

set_option autoImplicit false

namespace DeclMacros

/-- How serious a report is. -/
inductive Severity where
  | error
  | warning
deriving DecidableEq, Repr

/-- Why a member of a trait cannot be forwarded. -/
inductive Unforwardable where
  | generic
  | receiver
  | unsafety
  | borrowedReturn
  | borrowedAsyncInput
  | selfType
  | static
  | initializer
  | constant
  | associatedType
  | macroCall
deriving DecidableEq, Repr

/-- How messages name what cannot be forwarded. -/
def Unforwardable.describe : Unforwardable → String
  | .generic => "generic methods"
  | .receiver => "methods whose receiver is not `&self`"
  | .unsafety => "`unsafe` methods"
  | .borrowedReturn => "methods returning references"
  | .borrowedAsyncInput => "`async` methods taking references"
  | .selfType => "signatures that mention `Self`"
  | .static => "required functions without a receiver"
  | .initializer => "required functions returning `Self` without a receiver"
  | .constant => "associated consts without a default"
  | .associatedType => "associated types"
  | .macroCall => "macro invocations"

/-- What a macro reports. -/
inductive Problem where
  /-- The macro is attached to a declaration of the wrong kind. -/
  | supportedTypes (m : AttachedMacro)
  /-- A property has no explicit type. -/
  | typeRequired (m : AttachedMacro)
  /-- A conversion does not say what it converts from. -/
  | noRawType
  /-- A marker stands on something other than a field. -/
  | notProperty (marker : Marker)
  /-- Two variants would get accessors of one name. -/
  | duplicateAccessor
  /-- A property is not read by a plain getter. -/
  | propertyShape
  /-- The trait is generic or has supertraits. -/
  | genericTrait
  /-- A member of the trait cannot be forwarded. -/
  | unforwardable (reason : Unforwardable)
  /-- No values were given to run a test on. -/
  | noValues
  /-- No closure was given to run. -/
  | noClosure
  /-- The closure does not take exactly one value. -/
  | closureArity
  /-- The source itself is at fault. -/
  | malformed (message : String)
deriving DecidableEq, Repr

namespace Problem

/-- The identifier of a problem. -/
def id : Problem → String
  | .supportedTypes _ => "supportedTypes"
  | .typeRequired _ => "propertyTypeRequired"
  | .noRawType => "noRawType"
  | .notProperty _ => "notProperty"
  | .duplicateAccessor => "duplicateAccessor"
  | .propertyShape => "propertyShape"
  | .genericTrait => "genericTrait"
  | .unforwardable _ => "unforwardable"
  | .noValues => "noValues"
  | .noClosure => "noClosure"
  | .closureArity => "closureArity"
  | .malformed _ => "malformedAttribute"

/-- The severity of a problem. -/
def severity : Problem → Severity
  | .noValues => .warning
  | _ => .error

/-- The wording of a problem. -/
def message : Problem → String
  | .supportedTypes m => "`#[" ++ m.name ++ "]` can only be applied to " ++ m.target ++ "."
  | .typeRequired m =>
    "`#[" ++ m.name ++ "]` requires that properties provide explicit type information."
  | .noRawType =>
    "`#[auto_parse]` requires a `from = Type` argument naming the type to parse from."
  | .notProperty marker => "`#[" ++ marker.name ++ "]` can only be applied to properties."
  | .duplicateAccessor =>
    "`#[enum_properties]` would give this variant an accessor name that an earlier variant "
      ++ "already uses."
  | .propertyShape => "`#[property]` requirements must have the form `fn name(&self) -> Type`."
  | .genericTrait => "`#[auto_type_erase]` cannot erase generic traits or traits with supertraits."
  | .unforwardable reason => "`#[auto_type_erase]` cannot forward " ++ reason.describe ++ "."
  | .noValues => "No values passed to `test_each!`."
  | .noClosure => "`test_each!` requires the second argument be a closure."
  | .closureArity => "`test_each!` requires the provided closure to have a single parameter."
  | .malformed text => text

end Problem

/-- A problem and its place. -/
structure Diagnostic where
  problem : Problem
  span : Span := .callSite
deriving DecidableEq, Repr

namespace Diagnostic

/-- The report of a fault in the source. -/
def ofFault (f : Fault) : Diagnostic := ⟨.malformed f.message, f.span⟩

/-- The report is an error. -/
def isError (d : Diagnostic) : Bool := d.problem.severity = .error

end Diagnostic

/-- A text as a literal in generated code. -/
def Token.text (value : String) : Token := .ofLiteral (Text.literalQuoted value)

/-- Code that makes the compiler report an error. -/
def compileError (message : String) : Tokens :=
  .word "compile_error" :: Tokens.op "!" ++ [.braces [.text message]]

/-- Code that makes the compiler report a diagnostic.  A warning rides on a deprecated constant that
    is used right away. -/
def Diagnostic.tokens (d : Diagnostic) : Tokens :=
  let name := Token.word d.problem.id
  match d.problem.severity with
  | .error => compileError d.problem.message
  | .warning =>
    [.word "const", .word "_"] ++ Tokens.op ":" ++ [.parens []] ++ Tokens.op "="
      ++ [.braces (
        Tokens.op "#" ++ [.brackets [.word "deprecated",
          .parens (.word "note" :: Tokens.op "=" ++ [.text d.problem.message])]]
        ++ Tokens.op "#" ++ [.brackets [.word "allow", .parens [.word "non_upper_case_globals"]]]
        ++ [.word "const", name] ++ Tokens.op ":" ++ [.parens []] ++ Tokens.op "=" ++ [.parens []]
        ++ Tokens.op ";"
        ++ [.word "let", .word "_"] ++ Tokens.op "=" ++ [name] ++ Tokens.op ";")]
      ++ Tokens.op ";"

/-- What a macro generates and reports. -/
structure Expansion (α : Type) where
  items : List α := []
  diagnostics : List Diagnostic := []

namespace Expansion

variable {α β : Type}

/-- One report and nothing else. -/
def report (d : Diagnostic) : Expansion α := { diagnostics := [d] }

/-- Some report is an error. -/
def hasErrors (e : Expansion α) : Bool := e.diagnostics.any Diagnostic.isError

/-- The expansion with each generated thing changed by a function. -/
def map (f : α → β) (e : Expansion α) : Expansion β :=
  { items := e.items.map f, diagnostics := e.diagnostics }

/-- The tokens of an expansion: what is generated, then the reports. -/
def tokens (e : Expansion Tokens) : Tokens :=
  e.items.flatten ++ e.diagnostics.flatMap Diagnostic.tokens

end Expansion

end DeclMacros
