import DeclMacros.Grammar.Signature

/-! # Reading statements -/

set_option autoImplicit false

namespace DeclMacros

namespace Front

/-- A `static` item, as opposed to a closure that may not move. -/
def staticItem (ts : List Token) : Bool :=
  let closure := second (kw "async") ts && third (fun r => kw "move" r || op "|" r) ts
  kw "static" ts && (second (kw "mut") ts || (second name ts && !closure))

/-- A `const` item, as opposed to a constant block. -/
def constItem (ts : List Token) : Bool := kw "const" ts && !second (group .brace) ts

/-- An item stands here, as opposed to an expression. -/
def statementItem (ts : List Token) : Bool :=
  let fnStart (r : List Token) := kw "unsafe" r || kw "extern" r || kw "fn" r
  ["pub", "extern", "use", "fn", "mod", "type", "struct", "enum", "trait", "impl", "macro"].any
      (kw · ts)
    || (kw "crate" ts && !second (op "::") ts)
    || staticItem ts || constItem ts
    || (kw "unsafe" ts && !second (group .brace) ts)
    || (kw "async" ts && second fnStart ts)
    || (kw "union" ts && second name ts)
    || (kw "auto" ts && second (kw "trait") ts)
    || (kw "default" ts && second (fun r => kw "unsafe" r || kw "impl" r) ts)

/-- After a path: an exclamation mark that makes the path a macro call in item position. -/
def statementMacro (ts : List Token) : Bool :=
  let braces := second (group .brace) ts && !third (fun r => op "." r || op "?" r) ts
  op "!" ts && (braces || second name ts)

end Front

/-- A statement: its tokens, and whether more statements may follow it directly. -/
structure Statement where
  tokens : Tokens
  closed : Bool := true

namespace Phrases

open DeclMacros.Parser

/-- A macro call as an item, after its path. -/
def macroStatement (path : PlainPath) : Parser Tokens := do
  let bang ← op "!"
  let label ← if ← peekName then pure [Token.ident (← name)] else pure []
  let arguments ← anyDelimited
  return path.tokens ++ bang ++ label ++ arguments :: (← optOp ";")

/-- A local variable. One with an `else` branch is kept as it was read. -/
def localStatement (P : Phrases) (start : Input) (attrs : Tokens) : Parser Tokens := do
  let keyword ← kw "let"
  let pattern ← P.alternatives true
  let ascribed ← do
    if ← peekOp ":" then
      let colon ← op ":"
      pure (colon ++ (← P.type).tokens)
    else pure []
  let head := attrs ++ keyword :: pattern.tokens ++ ascribed
  if ← peekOp "=" then
    let equals ← op "="
    let value ← P.expr true
    if ← peekKw "else" then
      let _ ← kw "else"
      let _ ← P.block
      let tokens ← consumedSince start
      return tokens ++ (← op ";")
    else return head ++ equals ++ value.tokens ++ (← op ";")
  else return head ++ (← op ";")

/-- A statement that is an expression, with its semicolon if it has one. -/
def exprStatement (P : Phrases) (attrs : List Attribute) : Parser Statement := do
  let e := attributed attrs (← P.early)
  if ← peekOp ";" then return ⟨e.tokens ++ (← op ";"), true⟩
  else return ⟨e.tokens, !e.requiresTerminator⟩

/-- The macro call in item position that starts here: the input after its path. -/
def statementMacro? : Parser (Option (PlainPath × Input)) := do
  match ← attempt? plainPath with
  | some (path, rest) =>
    return if Front.statementMacro rest.tokens then some (path, rest) else none
  | none => return none

/-- A statement. -/
def statement (P : Phrases) : Parser Statement := do
  let start ← get
  let attrs ← outerAttrs
  match ← statementMacro? with
  | some (path, rest) =>
    set rest
    return ⟨attrs.flatMap Attribute.tokens ++ (← macroStatement path), true⟩
  | none =>
    if ← peekKw "let" then
      return ⟨← P.localStatement start (attrs.flatMap Attribute.tokens), true⟩
    else if ← peek Front.statementItem then
      match ← P.item with
      | .verbatim tokens => return ⟨tokens, true⟩
      | item => return ⟨attrs.flatMap Attribute.tokens ++ item.tokens, true⟩
    else P.exprStatement attrs

/-- The statements of a block. -/
def anyStatements (P : Phrases) : Parser Tokens := do
  let all ← many do
    if ← peekOp ";" then return some (← op ";")
    else if ← atEnd then return none
    else
      let s ← P.statement
      if !s.closed && !(← atEnd) then fail .unexpectedToken
      return some s.tokens
  return all.flatten

end Phrases

end DeclMacros
