import DeclMacros.Access
import DeclMacros.Grammar

/-! # Arguments of attached macros

    The arguments are a list of `key = value` pairs: an access level, and for a
    conversion the type that it converts from.  A word that names no level counts as
    no level. -/

set_option autoImplicit false

namespace DeclMacros

/-- What is written where a macro is attached. -/
structure Attachment where
  access : Option AccessLevel := none
  /-- The type that a conversion converts from. -/
  source : Option Ty := none

/-- One argument with the key it was given under. -/
inductive Argument where
  | access (level : Option AccessLevel)
  | source (key : Ident) (ty : Ty)

namespace Attachment

/-- The level that an expression names: a string, or a plain name. -/
def levelOf (e : Expr) : Parser (Option AccessLevel) :=
  match e.form with
  | .text value => return AccessLevel.ofKeyword? value
  | .path name => return name.bind fun i => AccessLevel.ofKeyword? i.display
  | _ => Parser.failAt e.span .accessLevelExpected

/-- One argument. -/
def argument (P : Phrases) (acceptsSource : Bool) : Parser Argument := do
  let key ← Parser.name
  let _ ← Parser.op "="
  if key.is "access" then return .access (← levelOf (← P.expr true))
  else if key.is "from" && acceptsSource then return .source key (← P.type)
  else Parser.failAt key.span (.unknownArgument key.display acceptsSource)

/-- The attachment after one more argument.  The last access level counts, and a second source type
    is refused. -/
def add (a : Attachment) : Argument → Parser Attachment
  | .access level => return { a with access := level }
  | .source key ty =>
    if a.source.isSome then Parser.failAt key.span .duplicateSource
    else return { a with source := some ty }

/-- The arguments up to the end of the input. -/
def arguments (P : Phrases) (acceptsSource : Bool) : Parser Attachment :=
  Parser.iterate (fun a => do
    if ← Parser.atEnd then return none
    let next ← add a (← argument P acceptsSource)
    if !(← Parser.atEnd) then
      let _ ← Parser.op ","
    return some next) {}

/-- Reads the arguments of an attached macro. -/
def read (ts : Tokens) (acceptsSource : Bool) : Except Failure Attachment :=
  ts.readAs fun P => arguments P acceptsSource

end Attachment

end DeclMacros
