import DeclMacros.Grammar.Type

/-! # Reading patterns -/

set_option autoImplicit false

namespace DeclMacros

/-- A field of a value: a name, or a position. -/
inductive Member where
  | named (name : Ident)
  | position (tokens : Tokens)

namespace Member

/-- The tokens of a member. -/
def tokens : Member → Tokens
  | .named i => [.ident i]
  | .position ts => ts

/-- The name of a member. -/
def name? : Member → Option Ident
  | .named i => some i
  | .position _ => none

/-- The member has a name. -/
def isNamed (m : Member) : Bool := m.name?.isSome

end Member

/-- Another alternative of a pattern follows. -/
def Front.alternative (ts : List Token) : Bool :=
  op "|" ts && !op "||" ts && !op "|=" ts

/-- A pattern that starts with a path stands here. -/
def Front.pathPattern (ts : List Token) : Bool :=
  match ident? ts with
  | some (i, rest) =>
    if isName i then
      op "::" rest || op "!" rest || group .brace rest || group .parenthesis rest || rangeFrom rest
    else (i.is "self" && op "::" rest) || i.is "Self" || i.is "super" || i.is "crate"
  | none => op "::" ts || op "<" ts
where
  /-- A range operator with an upper bound after it. -/
  rangeFrom (ts : List Token) : Bool :=
    let after (symbol : String) := (operator? symbol.toList ts).map (·.2)
    match after "..=" <|> after "..." <|> after ".." with
    | some rest => !(rest.isEmpty || op "," rest)
    | none => false

/-- The end of an open range pattern. -/
def Front.rangePatternEnd (ts : List Token) : Bool :=
  ts.isEmpty || op "|" ts || op "=" ts || (op ":" ts && !op "::" ts) || op "," ts || op ";" ts

namespace Parser

/-- A position and its place: an integer without a suffix or a sign that fits 32 bits. -/
def index : Parser (Nat × Span) := do
  match ← attempt? lit with
  | some ({ kind := .integer value suffix, negative := negative, span := span, .. }, rest) =>
    set rest
    if !suffix.isEmpty then failAt span .suffixedIndex
    else if negative then failAt span .negativeIndex
    else if value < UInt32.size then return (value, span)
    else failAt span .largeIndex
  | _ => failPhrase "integer literal"

/-- An integer stands here. -/
def peekInteger : Parser Bool := do
  match ← attempt? lit with
  | some ({ kind := .integer .., .. }, _) => return true
  | _ => return false

/-- A field name or position. -/
def member : Parser Member := do
  if ← peekName then return .named (← name)
  else if ← peekInteger then
    let (position, span) ← index
    return .position [.literal (toString position) span]
  else failPhrase "identifier or integer"

/-- The operator of a range. Three dots are an old spelling of the inclusive one. -/
def rangeLimits : Parser Tokens := fun i =>
  match Front.operator? "...".toList i.tokens with
  | some ([(_, a), (_, b), (_, c)], rest) =>
    .ok (Tokens.glued [('.', a), ('.', b), ('=', c)], { i with tokens := rest })
  | _ => if Front.op "..=" i.tokens then op "..=" i else op ".." i

end Parser

namespace Phrases

open DeclMacros.Parser

/-- A `const` block, which is kept as it was read. -/
def constBlock (P : Phrases) : Parser Tokens := do
  let (_, tokens) ← recording do
    let _ ← kw "const"
    P.attributedBlock
  return tokens

/-- A bound of a range pattern, or a literal pattern; nothing where the range stays open. -/
def patternBound (P : Phrases) : Parser (Option Expr) := do
  if ← peek Front.rangePatternEnd then return none
  else
    let minus ← optOp "-"
    if ← peekLit then return some ⟨minus ++ (← lit).tokens, .other⟩
    else if ← peek Front.typeName then
      return some ⟨minus ++ (← P.qualifiedPath true).tokens, .other⟩
    else if ← peekKw "const" then
      let form := if minus.isEmpty then ExprForm.verbatim else .other
      return some ⟨minus ++ (← P.constBlock), form⟩
    else
      failExpected [.phrase "literal", .phrase "identifier", .token "::", .token "<",
        .token "self", .token "Self", .token "super", .token "crate", .token "const"]

/-- The rest of a range pattern after its lower bound. An open range is kept as it was read. -/
def rangePattern (P : Phrases) (start : Input) (low : Tokens) : Parser Pattern := do
  let limits ← rangeLimits
  match ← P.patternBound with
  | some high => return { tokens := low ++ limits ++ high.tokens }
  | none => return { tokens := ← consumedSince start, form := .verbatim }

/-- A pattern with alternatives, possibly after a bar. Every alternative binds the same names. -/
def alternatives (P : Phrases) (leading : Bool) : Parser Pattern := do
  let bar ← if leading then optOp "|" else pure []
  let first ← P.pattern
  if !bar.isEmpty || (← peek Front.alternative) then
    let more ← many do
      if ← peek Front.alternative then
        let separator ← op "|"
        return some (separator ++ (← P.pattern).tokens)
      else return none
    return { tokens := bar ++ first.tokens ++ more.flatten, binds := first.binds }
  else return first

/-- The tokens of patterns with their separators, and the names that they bind together. -/
def patternsOf (all : Separated Pattern) : Pattern :=
  { tokens := all.tokens Pattern.tokens, binds := all.values.flatMap Pattern.binds }

/-- Patterns with commas between them. -/
def patternList (P : Phrases) : Parser Pattern := do
  return patternsOf (← commaList (P.alternatives true))

/-- A field of a structure pattern after its attributes.  A field without a pattern of its own binds
    its name. -/
def fieldPattern (P : Phrases) (attrs : Tokens) : Parser Pattern := do
  let boxed ← optKw "box"
  let byRef ← optKw "ref"
  let mutability ← optKw "mut"
  let modifiers := boxed ++ byRef ++ mutability
  let found ← if modifiers.isEmpty then member else pure (.named (← name))
  if (modifiers.isEmpty && (← peekOp ":")) || !found.isNamed then
    let colon ← op ":"
    let inner ← P.alternatives true
    return { inner with tokens := attrs ++ found.tokens ++ colon ++ inner.tokens }
  else return { tokens := attrs ++ modifiers ++ found.tokens, binds := found.name?.toList }

/-- The content of a structure pattern, and whether two dots with attributes end it. -/
def structPattern (P : Phrases) : Parser (Pattern × Bool) := fun i =>
  go (Token.sizes i.tokens + 1) [] i
where
  /-- Reads on after the fields `before`. -/
  go : Nat → Separated Pattern → Parser (Pattern × Bool)
    | 0, _ => fail .nestedTooDeep
    | fuel + 1, before => do
      if ← atEnd then return (patternsOf before, false)
      let attrs := (← outerAttrs).flatMap Attribute.tokens
      if ← peekOp ".." then
        let dots ← op ".."
        let fields := patternsOf before
        return ({ fields with tokens := fields.tokens ++ attrs ++ dots }, !attrs.isEmpty)
      let field ← P.fieldPattern attrs
      if ← atEnd then return (patternsOf (before ++ [(field, [])]), false)
      let comma ← op ","
      go fuel (before ++ [(field, comma)])

/-- A pattern that starts with a path.  Under a self type, or with attributes on its two dots, the
    pattern is kept as it was read. -/
def pathPattern (P : Phrases) : Parser Pattern := do
  let start ← get
  let path ← P.qualifiedPath true
  let (plain, callable) := match path with
    | .path p => (true, !p.hasArguments)
    | _ => (false, false)
  if callable && (← peekOp "!") && !(← peekOp "!=") then
    let bang ← op "!"
    return { tokens := path.tokens ++ bang ++ [← anyDelimited] }
  else if ← peekGroup .brace then
    let ((fields, attributed), span) ← delimited .brace P.structPattern
    if plain && !attributed then
      return { fields with tokens := path.tokens ++ [.group .brace fields.tokens span] }
    else return { fields with tokens := ← consumedSince start, form := .verbatim }
  else if ← peekGroup .parenthesis then
    let (elements, span) ← delimited .parenthesis P.patternList
    if plain then
      return { elements with tokens := path.tokens ++ [.group .parenthesis elements.tokens span] }
    else return { elements with tokens := ← consumedSince start, form := .verbatim }
  else if ← peekOp ".." then P.rangePattern start path.tokens
  else return { tokens := path.tokens }

/-- A literal pattern, or a range that starts with a literal. -/
def literalPattern (P : Phrases) : Parser Pattern := do
  let start ← get
  match ← P.patternBound with
  | none => fail .unexpectedToken
  | some low =>
    if ← peekOp ".." then P.rangePattern start low.tokens
    else
      match low.form with
      | .verbatim => return { tokens := low.tokens, form := .verbatim }
      | _ => return { tokens := low.tokens }

/-- A binding of a name. -/
def bindingPattern (P : Phrases) : Parser Pattern := do
  let byRef ← optKw "ref"
  let mutability ← optKw "mut"
  let i ← anyIdent
  if ← peekOp "@" then
    let sign ← op "@"
    let inner ← P.pattern
    return { tokens := byRef ++ mutability ++ .ident i :: sign ++ inner.tokens,
             form := .binding i (!byRef.isEmpty) true, binds := i :: inner.binds }
  else
    return { tokens := byRef ++ mutability ++ [.ident i],
             form := .binding i (!byRef.isEmpty) false, binds := [i] }

/-- Two dots, or a range without a lower bound. -/
def openPattern (P : Phrases) : Parser Pattern := do
  let start ← get
  let inclusive ← peekOp "..="
  let limits ← rangeLimits
  match ← P.patternBound with
  | some _ => return { tokens := ← consumedSince start, form := .verbatim }
  | none => if inclusive then failPhrase "range upper bound" else return { tokens := limits }

/-- A pattern without alternatives. -/
def anyPattern (P : Phrases) : Parser Pattern := do
  if ← peek Front.pathPattern then P.pathPattern
  else if ← peekKw "_" then return { tokens := [← kw "_"] }
  else if ← peekKw "box" then
    let keyword ← kw "box"
    let inner ← P.pattern
    return { tokens := keyword :: inner.tokens, binds := inner.binds }
  else if ← peekOp "-" then P.literalPattern
  else if (← peekLit) || (← peekKw "const") then P.literalPattern
  else if (← peekKw "ref") || (← peekKw "mut") || (← peekKw "self") || (← peekName) then
    P.bindingPattern
  else if ← peekOp "&" then
    let ampersand ← op "&"
    let mutability ← optKw "mut"
    let inner ← P.pattern
    return { tokens := ampersand ++ mutability ++ inner.tokens, binds := inner.binds }
  else if ← peekGroup .parenthesis then
    let (elements, span) ← delimited .parenthesis P.patternList
    return { elements with tokens := [.group .parenthesis elements.tokens span] }
  else if ← peekGroup .bracket then
    let (elements, span) ← delimited .bracket P.patternList
    return { elements with tokens := [.group .bracket elements.tokens span] }
  else if (← peekOp "..") && !(← peekOp "...") then P.openPattern
  else
    failExpected ([.token "::", .token "<", .token "_", .phrase "literal", .token "const",
      .token "ref", .token "mut", .token "&", .phrase "parentheses", .phrase "square brackets"]
      ++ (if ← peekOp ".." then [] else [.token ".."]) ++ [.token "const"])

end Phrases

end DeclMacros
