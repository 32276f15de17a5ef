import DeclMacros.Grammar.Pattern
import DeclMacros.Token.Lexer

/-! # Reading expressions

    Operators are read by precedence climbing: an operand, then the operators that
    bind at least as tightly as the context asks for.  Since an expression keeps only
    its tokens and its outermost form, the nesting shows in what is accepted and in
    the form. -/

set_option autoImplicit false

namespace DeclMacros

/-- The binary operators with their precedence. Longer spellings come before their prefixes. -/
def binaryOperators : List (String × Precedence) :=
  [("+=", .assign), ("-=", .assign), ("*=", .assign), ("/=", .assign), ("%=", .assign),
   ("^=", .assign), ("&=", .assign), ("|=", .assign), ("<<=", .assign), (">>=", .assign),
   ("&&", .and), ("||", .or), ("<<", .shift), (">>", .shift), ("==", .compare), ("<=", .compare),
   ("!=", .compare), (">=", .compare), ("+", .arithmetic), ("-", .arithmetic), ("*", .term),
   ("/", .term), ("%", .term), ("^", .bitXor), ("&", .bitAnd), ("|", .bitOr), ("<", .compare),
   (">", .compare)]

namespace Front

/-- The binary operator that stands here. -/
def binary? (ts : List Token) : Option (String × Precedence) :=
  binaryOperators.find? fun (symbol, _) => op symbol ts

/-- A colon that gives a type. -/
def ascription (ts : List Token) : Bool := op ":" ts && !op "::" ts

/-- A dot that is not part of a range. -/
def dot (ts : List Token) : Bool := op "." ts && !op ".." ts

/-- The precedence of what stands here as an operator; the loosest when it is none. -/
def precedence (ts : List Token) : Precedence :=
  match binary? ts with
  | some (_, p) => p
  | none =>
    if op "=" ts && !op "=>" ts then .assign
    else if op ".." ts then .range
    else if kw "as" ts || ascription ts then .cast
    else .any

/-- The end of a range without an upper bound. -/
def rangeEnd (allowStruct : Bool) (ts : List Token) : Bool :=
  ts.isEmpty || op "," ts || op ";" ts || dot ts || (!allowStruct && group .brace ts)

/-- No value follows a `return` or a `yield`. -/
def valueEnd (ts : List Token) : Bool := ts.isEmpty || op "," ts || op ";" ts

/-- The lifetimes of a higher-ranked closure stand here. -/
def closureLifetimes (ts : List Token) : Bool :=
  kw "for" ts && second (op "<") ts && third (fun rest => lifetime rest || op ">" rest) ts

/-- A closure stands here. -/
def closure (ts : List Token) : Bool :=
  op "|" ts || (kw "async" ts && second (fun rest => op "|" rest || kw "move" rest) ts)
    || kw "static" ts || kw "move" ts

/-- An asynchronous block stands here. -/
def asyncBlock (ts : List Token) : Bool :=
  kw "async" ts
    && (second (group .brace) ts || (second (kw "move") ts && third (group .brace) ts))

/-- A fallible block stands here. -/
def tryBlock (ts : List Token) : Bool := kw "try" ts && second (group .brace) ts

/-- An invisible group with an attribute at its start stands here. -/
def substitutedAttr (ts : List Token) : Bool :=
  match invisible? ts with
  | some (content, _, _) => op "#" content && !second (op "!") content
  | none => false

/-- A substituted expression stands here that nothing continues. -/
def substituted (ts : List Token) : Bool :=
  invisible ts && !second (fun rest => op "::" rest || op "!" rest || group .brace rest) ts

end Front

namespace Parser

/-- An attribute in front of an expression.  One in an invisible group must be alone there; else the
    group is left to the expression. -/
def exprAttr? : Parser (Option Attribute) := do
  if ← peek Front.substitutedAttr then
    let ((_, alone), _) ← lookAhead (delimited .invisible do return (← outerAttr, ← atEnd))
    if alone then return some (← delimited .invisible outerAttr).1 else return none
  else if (← peekOp "#") && !(← peek Front.invisible) then return some (← outerAttr)
  else return none

/-- Attributes in front of an expression. -/
def exprAttrs : Parser (List Attribute) := many exprAttr?

/-- Reports what may not follow a cast. -/
def checkCast : Parser Unit := do
  if ← peek Front.dot then
    let called (ts : List Token) := Front.group .parenthesis ts || Front.op "::" ts
    if ← peek2 (Front.kw "await") then fail (.afterCast "`.await`")
    else if (← peek2 Front.name) && (← peek3 called) then fail (.afterCast "a method call")
    else fail (.afterCast "a field access")
  else if ← peekOp "?" then fail (.afterCast "`?`")
  else if ← peekGroup .bracket then fail (.afterCast "indexing")
  else if ← peekGroup .parenthesis then fail (.afterCast "a function call")

/-- The position that a part of a number stands for.  The part is read on its own, and its faults
    are reported at `span`. -/
def partIndex (part : String) (span : Span) : Parser Nat :=
  match Tokens.lex? part with
  | none => failAt span .malformedIndex
  | some tokens =>
    match run index tokens with
    | .ok (position, _) => pure position
    | .error (.fault f) => failAt span f.cause
    | .error (.crash c) => crash c

/-- The stretches of a text between its dots. -/
def betweenDots : List Char → List (List Char)
  | [] => [[]]
  | c :: cs =>
    if c = '.' then [] :: betweenDots cs
    else
      match betweenDots cs with
      | [] => [[c]]
      | first :: rest => (c :: first) :: rest

/-- The positions that a number with dots in it stands for, as in `x.0.1`.  A dot at its end is left
    to what follows. -/
def positions (dot : Token) (text : String) (span : Span) : Parser (Tokens × Bool) := do
  let trailing := text.endsWith "."
  let parts := (betweenDots text.toList).filter fun p => !p.isEmpty
  let members ← parts.mapM fun part => do
    return Token.literal (toString (← partIndex (String.ofList part) span)) .callSite
  let later := Token.punct '.' .alone span
  let dotted := match members with
    | [] => []
    | first :: rest => dot :: first :: rest.flatMap fun m => [later, m]
  return (dotted ++ (if trailing then [later] else []), trailing)

end Parser

namespace Phrases

open DeclMacros.Parser

/-- Expressions with commas between them. -/
def exprList (P : Phrases) : Parser Tokens := do
  return (← commaList (P.expr true)).tokens Expr.tokens

/-! ## Operators -/

/-- Extends a right operand by the operators after it while `binds` holds of their precedence. -/
def rightOperand (P : Phrases) (allowStruct : Bool) (binds : Precedence → Bool) : Parser Expr := do
  iterate (fun e => do
    let next := Front.precedence (← get).tokens
    if binds next then return some (← P.operators allowStruct e next) else return none)
    (← P.operand allowStruct)

/-- A range after its lower bound. -/
def rangeAfter (P : Phrases) (allowStruct : Bool) (low : Tokens) : Parser Expr := do
  let limits ← rangeLimits
  if ← peek (Front.rangeEnd allowStruct) then return ⟨low ++ limits, .range⟩
  else
    let high ← P.rightOperand allowStruct fun next => Precedence.range.rank < next.rank
    return ⟨low ++ limits ++ high.tokens, .range⟩

/-- A range without a lower bound. -/
def rangeFrom (P : Phrases) (allowStruct : Bool) : Parser Expr := do
  let limits ← rangeLimits
  if ← peek (Front.rangeEnd allowStruct) then return ⟨limits, .range⟩
  else return ⟨limits ++ (← P.expr allowStruct).tokens, .range⟩

/-- One operator after a left operand, if it binds at least as tightly as `base`. -/
def operatorStep (P : Phrases) (allowStruct : Bool) (base : Precedence) (left : Expr) :
    Parser (Option Expr) := do
  let ts := (← get).tokens
  match (Front.binary? ts).filter fun (_, p) => base.rank ≤ p.rank with
  | some (symbol, precedence) =>
    let operator ← op symbol
    let right ← P.rightOperand allowStruct fun next =>
      precedence.rank < next.rank || (next = precedence && precedence = .assign)
    return some ⟨left.tokens ++ operator ++ right.tokens, .operation left.dropsAttrs⟩
  | none =>
    if base.rank ≤ Precedence.assign.rank && Front.op "=" ts && !Front.op "==" ts
        && !Front.op "=>" ts then
      let equals ← op "="
      let right ← P.rightOperand allowStruct fun next => Precedence.assign.rank ≤ next.rank
      return some ⟨left.tokens ++ equals ++ right.tokens, .operation left.dropsAttrs⟩
    else if base.rank ≤ Precedence.range.rank && Front.op ".." ts then
      return some (← P.rangeAfter allowStruct left.tokens)
    else if Front.kw "as" ts then
      let keyword ← kw "as"
      let ty ← P.ty false false
      checkCast
      return some ⟨left.tokens ++ keyword :: ty.tokens, .other⟩
    else if Front.ascription ts then
      let colon ← op ":"
      let ty ← P.ty false false
      checkCast
      return some ⟨left.tokens ++ colon ++ ty.tokens, .other⟩
    else return none

/-- The operators after a left operand. -/
def anyOperators (P : Phrases) (allowStruct : Bool) (left : Expr) (base : Precedence) :
    Parser Expr :=
  iterate (P.operatorStep allowStruct base) left

/-! ## Control structures -/

/-- A label with its colon, if one stands here. -/
def optLabel : Parser Tokens := do
  if ← peek Front.lifetime then
    let i ← lifetime
    return i ++ (← op ":")
  else return []

/-- A conditional. -/
def anyConditional (P : Phrases) : Parser Expr := do
  let keyword ← kw "if"
  let condition ← P.expr false
  let body ← P.block
  let head := keyword :: condition.tokens ++ [body]
  if ← peekKw "else" then
    let other ← kw "else"
    if ← peekKw "if" then return ⟨head ++ other :: (← P.conditional).tokens, .blockLike⟩
    else if ← peekGroup .brace then return ⟨head ++ [other, ← P.block], .blockLike⟩
    else failUnexpected
  else return ⟨head, .blockLike⟩

/-- A loop with a condition. -/
def whileLoop (P : Phrases) : Parser Expr := do
  let keyword ← kw "while"
  let condition ← P.expr false
  return ⟨keyword :: condition.tokens ++ [← P.attributedBlock], .blockLike⟩

/-- A loop over a sequence. -/
def forLoop (P : Phrases) : Parser Expr := do
  let keyword ← kw "for"
  let pattern ← P.alternatives true
  let inside ← kw "in"
  let sequence ← P.expr false
  return ⟨keyword :: pattern.tokens ++ inside :: sequence.tokens ++ [← P.attributedBlock],
    .blockLike⟩

/-- A loop without a condition. -/
def endlessLoop (P : Phrases) : Parser Expr := do
  let keyword ← kw "loop"
  return ⟨[keyword, ← P.attributedBlock], .blockLike⟩

/-! ## Operands -/

/-- Arguments after `::` in a method call. -/
def turbofish (P : Phrases) : Parser Tokens := do
  let colons ← op "::"
  let less ← op "<"
  let argument : Parser Tokens := do
    if ← peekLit then return (← lit).tokens
    else if ← peekGroup .brace then return [← P.attributedBlock]
    else return (← P.type).tokens
  let arguments ← separated (Front.op ">") (fun ts => !Front.op ">" ts) argument (op ",")
  return colons ++ less ++ arguments.tokens id ++ (← op ">")

/-- A field access or a method call after its dot. -/
def memberAccess (P : Phrases) (e : Tokens) : Parser Expr := do
  let found ← member
  let fish ← if found.isNamed && (← peekOp "::") then P.turbofish else pure []
  if !fish.isEmpty || (found.isNamed && (← peekGroup .parenthesis)) then
    let (arguments, span) ← delimited .parenthesis P.exprList
    return ⟨e ++ found.tokens ++ fish ++ [.group .parenthesis arguments span], .other⟩
  else return ⟨e ++ found.tokens, .other⟩

/-- A float literal stands here: its text with its sign, its place and what follows. -/
def peekFloat : Parser (Option (String × Span × Input)) := do
  match ← attempt? lit with
  | some ({ kind := .float, tokens := [.literal text _], span := span, .. }, rest) =>
    return some (text, span, rest)
  | some ({ kind := .float, tokens := [.punct .., .literal text _], span := span, .. }, rest) =>
    return some ("-" ++ text, span, rest)
  | _ => return none

/-- What follows the dot after an operand. -/
def afterDot (P : Phrases) (e dot : Tokens) : Parser Expr := do
  if ← peekKw "await" then return ⟨e ++ dot ++ [← kw "await"], .other⟩
  else
    match ← peekFloat with
    | some (text, span, rest) =>
      set rest
      let (indices, trailing) ← positions (.punct '.' .alone (Tokens.span dot)) text span
      if trailing then P.memberAccess (e ++ indices) else return ⟨e ++ indices, .other⟩
    | none => P.memberAccess (e ++ dot)

/-- One call, field access, index or question mark after an operand. -/
def trailer (P : Phrases) (e : Expr) : Parser (Option Expr) := do
  let isRange := match e.form with
    | .range => true
    | _ => false
  if ← peekGroup .parenthesis then
    let (arguments, span) ← delimited .parenthesis P.exprList
    return some ⟨e.tokens ++ [.group .parenthesis arguments span], .other⟩
  else if !isRange && (← peek Front.dot) then
    let dot ← op "."
    return some (← P.afterDot e.tokens dot)
  else if ← peekGroup .bracket then
    let (index, span) ← delimited .bracket (P.expr true)
    return some ⟨e.tokens ++ [.group .bracket index.tokens span], .other⟩
  else if ← peekOp "?" then return some ⟨e.tokens ++ (← op "?"), .other⟩
  else return none

/-- A parameter of a closure. -/
def closureParam (P : Phrases) : Parser Tokens := do
  let attrs := (← outerAttrs).flatMap Attribute.tokens
  let pattern ← P.pattern
  if ← peekOp ":" then
    let colon ← op ":"
    return attrs ++ pattern.tokens ++ colon ++ (← P.type).tokens
  else
    match pattern.form with
    | .verbatim => return pattern.tokens
    | _ => return attrs ++ pattern.tokens

/-- A closure. -/
def closure (P : Phrases) (allowStruct : Bool) : Parser Expr := do
  let movability ← optKw "static"
  let asyncness ← optKw "async"
  let capture ← optKw "move"
  let bar ← op "|"
  let parameters ← separated (Front.op "|") (fun ts => !Front.op "|" ts) P.closureParam (op ",")
  let bar' ← op "|"
  let head := movability ++ asyncness ++ capture ++ bar ++ parameters.tokens id ++ bar'
  if ← peekOp "->" then
    let arrow ← op "->"
    let ty ← P.type
    return ⟨head ++ arrow ++ ty.tokens ++ [← P.block], .closure parameters⟩
  else return ⟨head ++ (← P.expr allowStruct).tokens, .closure parameters⟩

/-- A field of a structure literal. -/
def fieldValue (P : Phrases) : Parser Tokens := do
  let attrs := (← outerAttrs).flatMap Attribute.tokens
  let found ← member
  if (← peekOp ":") || !found.isNamed then
    let colon ← op ":"
    return attrs ++ found.tokens ++ colon ++ (← P.expr true).tokens
  else return attrs ++ found.tokens

/-- The content of a structure literal. -/
def structFields (P : Phrases) : Parser Tokens := do
  let fields ← separated (fun ts => ts.isEmpty || Front.op ".." ts) (fun ts => !ts.isEmpty)
    P.fieldValue (op ",")
  if ← atEnd then return fields.tokens id
  else
    let dots ← op ".."
    let rest ← if ← atEnd then pure [] else pure (← P.expr true).tokens
    return fields.tokens id ++ dots ++ rest

/-- A path, a macro call or a structure literal.  A literal under a self type is kept as it was
    read. -/
def pathExpr (P : Phrases) (allowStruct : Bool) : Parser Expr := do
  let start ← get
  let path ← P.qualifiedPath true
  let form := match path with
    | .path p => ExprForm.path p.ident?
    | _ => .other
  let plain := match path with
    | .path p => !p.hasArguments
    | _ => false
  if plain && (← peekOp "!") && !(← peekOp "!=") then
    let bang ← op "!"
    return ⟨path.tokens ++ bang ++ [← anyDelimited], .other⟩
  else if allowStruct && (← peekGroup .brace) then
    let (fields, span) ← delimited .brace P.structFields
    match path with
    | .path p => return ⟨p.tokens ++ [.group .brace fields span], .other⟩
    | _ => return ⟨← consumedSince start, .verbatim⟩
  else return ⟨path.tokens, form⟩

/-- The content of an array literal. -/
def arrayContent (P : Phrases) : Parser (Tokens × Option (List Tokens)) := do
  if ← atEnd then return ([], some [])
  else
    let first ← P.expr true
    if (← atEnd) || (← peekOp ",") then
      let comma ← optOp ","
      let more ← commaList (P.expr true)
      let elements : Separated Expr := (first, comma) :: more
      return (elements.tokens Expr.tokens, some (elements.values.map Expr.tokens))
    else if ← peekOp ";" then
      let semicolon ← op ";"
      return (first.tokens ++ semicolon ++ (← P.expr true).tokens, none)
    else failPhrase "`,` or `;`"

/-- An array literal. -/
def arrayExpr (P : Phrases) : Parser Expr := do
  let ((content, elements), span) ← delimited .bracket P.arrayContent
  let form := match elements with
    | some es => ExprForm.array es
    | none => .other
  return ⟨[.group .bracket content span], form⟩

/-- A condition that matches a pattern. -/
def letExpr (P : Phrases) : Parser Expr := do
  let keyword ← kw "let"
  let pattern ← P.alternatives true
  let equals ← op "="
  let left ← P.operand false
  let value ← P.operators false left .compare
  return ⟨keyword :: pattern.tokens ++ equals ++ value.tokens, .other⟩

/-- A jump out of a loop, with its label and value. -/
def breakExpr (P : Phrases) (allowStruct : Bool) : Parser Expr := do
  let keyword ← kw "break"
  let label ← optLifetime
  let none' ← peek fun ts => Front.valueEnd ts || (!allowStruct && Front.group .brace ts)
  let value ← if none' then pure [] else pure (← P.expr allowStruct).tokens
  return ⟨keyword :: label ++ value, .other⟩

/-- A keyword with an optional value after it. -/
def valueAfter (P : Phrases) (keyword : String) (allowStruct : Bool) : Parser Expr := do
  let word ← kw keyword
  let value ← if ← peek Front.valueEnd then pure [] else pure (← P.expr allowStruct).tokens
  return ⟨word :: value, .other⟩

/-- A literal as an expression. -/
def literalExpr : Parser Expr := do
  let found ← lit
  match found.kind with
  | .text value => return ⟨found.tokens, .text value⟩
  | _ => return ⟨found.tokens, .other⟩

/-- A loop or block after a label. -/
def labelled (P : Phrases) : Parser Expr := do
  let label ← optLabel
  let body ← do
    if ← peekKw "while" then P.whileLoop
    else if ← peekKw "for" then P.forLoop
    else if ← peekKw "loop" then P.endlessLoop
    else if ← peekGroup .brace then pure ⟨[← P.attributedBlock], .blockLike⟩
    else failPhrase "loop or block expression"
  return ⟨label ++ body.tokens, .blockLike⟩

/-- A keyword and the block after it. -/
def keywordBlock (P : Phrases) (keyword : String) (attributed : Bool) : Parser Expr := do
  let word ← kw keyword
  let capture ← if keyword = "async" then optKw "move" else pure []
  let body ← if attributed then P.attributedBlock else P.block
  return ⟨word :: capture ++ [body], .blockLike⟩

/-- An expression that its block closes, which ends a statement early. -/
def earlyBlock? (P : Phrases) : Parser (Option Expr) := do
  if ← peekKw "if" then return some (← P.conditional)
  else if ← peekKw "while" then return some (← P.whileLoop)
  else if (← peekKw "for") && !(← peek Front.closureLifetimes) then return some (← P.forLoop)
  else if ← peekKw "loop" then return some (← P.endlessLoop)
  else if ← peekKw "match" then return some (← P.selection)
  else if ← peek Front.tryBlock then return some (← P.keywordBlock "try" false)
  else if ← peekKw "unsafe" then return some (← P.keywordBlock "unsafe" true)
  else if ← peekKw "const" then return some ⟨← P.constBlock, .verbatim⟩
  else if ← peekGroup .brace then return some ⟨[← P.attributedBlock], .blockLike⟩
  else return none

/-- An expression behind attributes, unless it drops them. -/
def attributed (attrs : List Attribute) (e : Expr) : Expr :=
  if e.dropsAttrs then e else { e with tokens := attrs.flatMap Attribute.tokens ++ e.tokens }

/-- An expression at the start of a statement or as the body of a match arm; a block there ends the
    expression unless a dot or a question mark follows. -/
def early (P : Phrases) : Parser Expr := do
  let attrs ← exprAttrs
  match ← P.earlyBlock? with
  | none =>
    let left ← P.operand true
    P.operators true (attributed attrs left) .any
  | some e =>
    if (← peek Front.dot) || (← peekOp "?") then
      let left ← iterate P.trailer e
      P.operators true (attributed attrs left) .any
    else return attributed attrs e

/-- An arm of a match.  A comma must follow a body that is not a block, unless the arm is the
    last. -/
def matchArm (P : Phrases) : Parser Tokens := do
  let attrs := (← outerAttrs).flatMap Attribute.tokens
  let pattern ← P.alternatives true
  let guard ← do
    if ← peekKw "if" then
      let keyword ← kw "if"
      pure (keyword :: (← P.expr true).tokens)
    else pure []
  let arrow ← op "=>"
  let body ← P.early
  let comma ← if body.requiresTerminator && !(← atEnd) then op "," else optOp ","
  return attrs ++ pattern.tokens ++ guard ++ arrow ++ body.tokens ++ comma

/-- A selection by patterns. -/
def anySelection (P : Phrases) : Parser Expr := do
  let keyword ← kw "match"
  let subject ← P.expr false
  let (arms, span) ← delimited .brace do
    let attrs ← innerAttrs
    let arms ← many do
      if ← atEnd then return none else return some (← P.matchArm)
    return attrs.flatMap Attribute.tokens ++ arms.flatten
  return ⟨keyword :: subject.tokens ++ [.group .brace arms span], .blockLike⟩

/-- The content of a parenthesised expression or a tuple is a list either way; only the commas tell
    them apart. -/
def parenExpr (P : Phrases) : Parser Expr := do
  let (content, span) ← delimited .parenthesis P.exprList
  return ⟨[.group .parenthesis content span], .other⟩

/-- An operand without operators, calls or field accesses. -/
def atom (P : Phrases) (allowStruct : Bool) : Parser Expr := do
  if ← peek Front.substituted then
    let (inner, span) ← delimited .invisible (P.expr true)
    return ⟨[.group .invisible inner.tokens span], .other⟩
  else if ← peekLit then literalExpr
  else if ← peek Front.asyncBlock then P.keywordBlock "async" false
  else if ← peek Front.tryBlock then P.keywordBlock "try" false
  else if ← peek Front.closure then P.closure allowStruct
  else if ← peek Front.closureLifetimes then
    let (_, tokens) ← recording do
      let _ ← boundLifetimes
      P.closure allowStruct
    return ⟨tokens, .verbatim⟩
  else if ← peek Front.typeName then P.pathExpr allowStruct
  else if ← peekGroup .parenthesis then P.parenExpr
  else if ← peekKw "break" then P.breakExpr allowStruct
  else if ← peekKw "continue" then
    let keyword ← kw "continue"
    return ⟨keyword :: (← optLifetime), .other⟩
  else if ← peekKw "return" then P.valueAfter "return" allowStruct
  else if ← peekGroup .bracket then P.arrayExpr
  else if ← peekKw "let" then P.letExpr
  else if ← peekKw "if" then P.conditional
  else if ← peekKw "while" then P.whileLoop
  else if ← peekKw "for" then P.forLoop
  else if ← peekKw "loop" then P.endlessLoop
  else if ← peekKw "match" then P.selection
  else if ← peekKw "yield" then P.valueAfter "yield" true
  else if ← peekKw "unsafe" then P.keywordBlock "unsafe" true
  else if ← peekKw "const" then return ⟨← P.constBlock, .verbatim⟩
  else if ← peekGroup .brace then return ⟨[← P.attributedBlock], .blockLike⟩
  else if ← peekOp ".." then P.rangeFrom allowStruct
  else if ← peekKw "_" then return ⟨[← kw "_"], .verbatim⟩
  else if ← peek Front.lifetime then P.labelled
  else failPhrase "expression"

/-- An operand with the calls and field accesses after it.  A form kept as it was read includes the
    attributes in front of it. -/
def trailed (P : Phrases) (start : Input) (attrs : List Attribute) (allowStruct : Bool) :
    Parser Expr := do
  let e ← iterate P.trailer (← P.atom allowStruct)
  match e.form with
  | .verbatim => return ⟨← consumedSince start, .verbatim⟩
  | _ => return attributed attrs e

/-- A reference, which may be a raw one. -/
def referenceExpr (P : Phrases) (start : Input) (attrs : Tokens) (allowStruct : Bool) :
    Parser Expr := do
  let ampersand ← op "&"
  let mutable? (ts : List Token) := Front.kw "mut" ts || Front.kw "const" ts
  if (← peekKw "raw") && (← peek2 mutable?) then
    let _ ← kw "raw"
    let mutability ← optKw "mut"
    if mutability.isEmpty then
      let _ ← kw "const"
    let _ ← P.operand allowStruct
    return ⟨← consumedSince start, .verbatim⟩
  else
    let mutability ← optKw "mut"
    let target ← P.operand allowStruct
    return ⟨attrs ++ ampersand ++ mutability ++ target.tokens, .other⟩

/-- An operand with its unary operators. -/
def anyOperand (P : Phrases) (allowStruct : Bool) : Parser Expr := do
  let start ← get
  let attrs ← exprAttrs
  let front := attrs.flatMap Attribute.tokens
  if ← peekOp "&" then P.referenceExpr start front allowStruct
  else if ← peekKw "box" then
    let keyword ← kw "box"
    return ⟨front ++ keyword :: (← P.operand allowStruct).tokens, .other⟩
  else
    let ts := (← get).tokens
    match ["*", "!", "-"].find? (Front.op · ts) with
    | some symbol =>
      let operator ← op symbol
      return ⟨front ++ operator ++ (← P.operand allowStruct).tokens, .other⟩
    | none => P.trailed start attrs allowStruct

/-- An expression. -/
def anyExpr (P : Phrases) (allowStruct : Bool) : Parser Expr := do
  let left ← P.anyOperand allowStruct
  P.anyOperators allowStruct left .any

end Phrases

end DeclMacros
