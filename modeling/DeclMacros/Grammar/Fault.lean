import DeclMacros.Crash
import DeclMacros.Token.Basic

/-! # Faults in the source

    A fault says what is wrong with a piece of source and where.  The cause is data;
    its wording is given in one place, `Cause.message`.  What the grammar would have
    accepted is listed in the order in which the alternatives are tried. -/

set_option autoImplicit false

namespace DeclMacros

/-- Something the grammar can ask for. -/
inductive Wanted where
  /-- A keyword or an operator, shown in backquotes. -/
  | token (text : String)
  /-- A class of tokens or phrases, shown by its name. -/
  | phrase (name : String)
deriving DecidableEq, Repr

/-- How a wanted thing is named. -/
def Wanted.describe : Wanted → String
  | .token text => "`" ++ text ++ "`"
  | .phrase name => name

/-- What is wrong with the source. -/
inductive Cause where
  /-- None of the alternatives stands here. -/
  | expected (alternatives : List Wanted)
  /-- The source ends where something must follow. -/
  | ended
  /-- Tokens are left after a complete phrase. -/
  | unexpectedToken
  /-- An object type or an opaque type lists lifetimes only. -/
  | objectWithoutTrait
  | opaqueWithoutTrait
  /-- A receiver stands after another parameter, or there are two. -/
  | misplacedReceiver
  | secondReceiver
  /-- A cast is followed by something that would bind tighter. -/
  | afterCast (what : String)
  /-- A field index has a suffix, is negative, or does not fit 32 bits. -/
  | suffixedIndex
  | negativeIndex
  | largeIndex
  /-- A part of a number that stands for several indices is no token. -/
  | malformedIndex
  /-- An attribute that needs arguments has none, or has them after an equals sign. -/
  | argumentsMissing (attr : String)
  | argumentsNotParenthesised (attr : String)
  /-- An attribute's arguments are not one delimited group. -/
  | argumentsMalformed
  /-- A marker without arguments was given some. -/
  | markerArguments
  /-- The value of an access argument is neither a string nor a path. -/
  | accessLevelExpected
  /-- The source type was given twice. -/
  | duplicateSource
  /-- An argument of this name is not known; whether a source type would be. -/
  | unknownArgument (name : String) (acceptsSource : Bool)
  /-- The phrase nests deeper than the bound that was computed for it. -/
  | nestedTooDeep
deriving DecidableEq, Repr

namespace Cause

/-- The alternatives joined: one, one of two, or one of a list. -/
def listed : List Wanted → String
  | [] => ""
  | [a] => "expected " ++ a.describe
  | [a, b] => "expected " ++ a.describe ++ " or " ++ b.describe
  | many => "expected one of: " ++ ", ".intercalate (many.map Wanted.describe)

/-- The wording of a cause. -/
def message : Cause → String
  | .expected alternatives => listed alternatives
  | .ended => "unexpected end of input"
  | .unexpectedToken => "unexpected token"
  | .objectWithoutTrait => "at least one trait is required for an object type"
  | .opaqueWithoutTrait => "at least one trait must be specified"
  | .misplacedReceiver => "unexpected method receiver"
  | .secondReceiver => "unexpected second method receiver"
  | .afterCast what => "casts cannot be followed by " ++ what
  | .suffixedIndex => "expected unsuffixed integer"
  | .negativeIndex => "invalid digit found in string"
  | .largeIndex => "number too large to fit in target type"
  | .malformedIndex => "lex error"
  | .argumentsMissing attr =>
    "expected attribute arguments in parentheses: " ++ attr ++ "(...)]"
  | .argumentsNotParenthesised attr => "expected parentheses: " ++ attr ++ "(...)]"
  | .argumentsMalformed => "unexpected token in attribute arguments"
  | .markerArguments => "`#[auto_parseable]` takes no arguments"
  | .accessLevelExpected => "expected an access level such as \"public\""
  | .duplicateSource => "duplicate `from` argument"
  | .unknownArgument name acceptsSource =>
    "unknown argument `" ++ name ++ "`, expected "
      ++ (if acceptsSource then "`access` or `from`" else "`access`")
  | .nestedTooDeep => "nested too deeply"

end Cause

/-- A fault: its cause, whether the source ended there, and its place. -/
structure Fault where
  cause : Cause
  atEnd : Bool := false
  span : Span := .callSite
deriving DecidableEq, Repr

/-- The wording of a fault. -/
def Fault.message (f : Fault) : String :=
  if f.atEnd then "unexpected end of input, " ++ f.cause.message else f.cause.message

/-- Why reading a source fails: a fault in it, or a crash of the reader. -/
inductive Failure where
  | fault (f : Fault)
  | crash (c : Crash)
deriving DecidableEq, Repr

end DeclMacros
