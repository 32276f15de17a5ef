import DeclMacros.Code.Basic
import DeclMacros.Grammar
import DeclMacros.Token.Lexer
import DeclMacros.Token.Printer

/-! # Test cases

    A closure is run once for each value of a list.  Each run is named by the source
    text of its value, as far as that text is known to be the value's; otherwise by
    its compact form. -/

set_option autoImplicit false

namespace DeclMacros

/-- One case: its label and its value. -/
structure TestCase where
  label : String
  value : Tokens

/-- A closure and the cases it is run on. -/
structure TestRun where
  closure : Expr
  cases : List TestCase

namespace TestRun

/-- The text reads as an expression that prints like the tokens. -/
def reads (text : String) (value : Tokens) : Except Crash Bool :=
  match Tokens.lex? text with
  | none => .ok false
  | some ts =>
    match ts.readExpr with
    | .ok e => .ok (Tokens.text e.tokens = Tokens.text value)
    | .error (.fault _) => .ok false
    | .error (.crash c) => .error c

/-- The label of a value: its source text if there is one that reads as the value, else its compact
    form. -/
def label (source : List Char) (value : Tokens) : Except Crash String := do
  match (Tokens.span value).text? source with
  | some text => return if ← reads text value then text else value.compact
  | none => return value.compact

/-- The name that the closure is bound to. -/
def performName : Token := .word "perform_test"

/-- The call that runs one case. -/
def caseTokens (c : TestCase) : Tokens :=
  Tokens.globalPath ["brewery", "activity", "run_activity"]
    ++ [.parens (.text c.label :: Tokens.op "," ++ Tokens.op "||" ++ [performName, .parens c.value])]
    ++ Tokens.op ";"

/-- The code of a test run. -/
def tokens (r : TestRun) : Tokens :=
  [.braces (
    Tokens.attr [.word "allow", .parens [.word "unused_mut"]]
    ++ [.word "let", .word "mut", performName] ++ Tokens.op "=" ++ r.closure.tokens ++ Tokens.op ";"
    ++ r.cases.flatMap caseTokens)]

/-- The place of an argument, or the call site when there is none. -/
def placeOf (e : Option Expr) : Span := (e.map Expr.span).getD .callSite

/-- The test run of a list of arguments: the values, then the closure. -/
def ofArguments (source : List Char) (args : List Expr) : Except Crash (Expansion TestRun) :=
  match args.head?.map Expr.form with
  | some (.array (first :: rest)) =>
    match args.tail.head? with
    | some closure =>
      match closure.form with
      | .closure parameters =>
        if parameters.length = 1 then do
          let cases ← (first :: rest).mapM fun value => do
            return { label := ← label source value, value := value }
          return { items := [{ closure := closure, cases := cases }] }
        else .ok (.report ⟨.closureArity, Tokens.span (parameters.tokens id)⟩)
      | _ => .ok (.report ⟨.noClosure, closure.span⟩)
    | none => .ok (.report ⟨.noClosure, .callSite⟩)
  | _ => .ok (.report ⟨.noValues, placeOf args.head?⟩)

/-- Expands the arguments of a test, given the text that they were read from. -/
def expand (source : List Char) (ts : Tokens) : Except Crash (Expansion TestRun) :=
  match ts.readExprs with
  | .ok args => ofArguments source args
  | .error (.fault f) => .ok (.report (.ofFault f))
  | .error (.crash c) => .error c

/-- An expansion in the place of an expression: the reports first, so that the block still has a
    value when nothing was generated. -/
def expression (e : Expansion TestRun) : Tokens :=
  [.braces (e.diagnostics.flatMap Diagnostic.tokens ++ e.items.flatMap tokens)]

end TestRun

end DeclMacros
