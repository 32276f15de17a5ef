import DeclMacros.Grammar.Item

/-! # The grammar

    The knot of the grammar: parsers for phrases of a given depth, and from them the
    readers of whole token sequences.  The depth allowed is computed from the number
    of tokens, so that it is never reached: every nesting costs tokens. -/

set_option autoImplicit false

namespace DeclMacros

/-- Parsers for phrases that nest at most so deep. -/
def phrases : Nat → Phrases
  | 0 => .flat
  | depth + 1 =>
    let P := phrases depth
    { ty := P.anyType
      bound := P.anyBound
      expr := P.anyExpr
      operand := P.anyOperand
      operators := P.anyOperators
      conditional := P.anyConditional
      selection := P.anySelection
      pattern := P.anyPattern
      statements := P.anyStatements
      item := P.anyItem
      field := P.namedField
      useTree := P.anyUseTree }

/-- Parsers for all phrases of a token sequence. -/
def phrasesFor (ts : Tokens) : Phrases := phrases (4 * Token.sizes ts + 8)

/-- Reads a whole token sequence by a rule of the grammar. -/
def Tokens.readAs {α : Type} (ts : Tokens) (rule : Phrases → Parser α) : Except Failure α :=
  Parser.run (rule (phrasesFor ts)) ts

namespace Tokens

/-- Reads a type. -/
def readType (ts : Tokens) : Except Failure Ty := ts.readAs Phrases.type

/-- Reads an expression. -/
def readExpr (ts : Tokens) : Except Failure Expr := ts.readAs fun P => P.expr true

/-- Reads an item. -/
def readItem (ts : Tokens) : Except Failure Item := ts.readAs Phrases.item

/-- Reads a visibility. -/
def readVisibility (ts : Tokens) : Except Failure Visibility := Parser.run Parser.visibility ts

/-- Reads a name. -/
def readName (ts : Tokens) : Except Failure Ident := Parser.run Parser.name ts

/-- Reads a field with a name. -/
def readNamedField (ts : Tokens) : Except Failure Field := ts.readAs Phrases.namedField

/-- Reads expressions with commas between them. -/
def readExprs (ts : Tokens) : Except Failure (List Expr) := do
  return (← ts.readAs fun P => Parser.commaList (P.expr true)).values

/-- Reads items up to the end, after attributes of the whole. -/
def readItems (ts : Tokens) : Except Failure (List Item) :=
  ts.readAs fun P => do
    let _ ← Parser.innerAttrs
    Phrases.untilEnd P.item

end Tokens

end DeclMacros
