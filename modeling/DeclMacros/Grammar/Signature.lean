import DeclMacros.Grammar.Expr

/-! # Reading fields and signatures -/

set_option autoImplicit false

namespace DeclMacros

/-- A receiver: an optional reference, an optional `mut`, and `self` that no colon follows. -/
def Front.receiver (ts : List Token) : Bool :=
  let afterRef := match operator? ['&'] ts with
    | some (_, rest) =>
      match lifetime? rest with
      | some (_, _, tail) => tail
      | none => rest
    | none => ts
  let afterMut := match ident? afterRef with
    | some (i, rest) => if i.is "mut" then rest else afterRef
    | none => afterRef
  match ident? afterMut with
  | some (i, rest) => i.is "self" && !op ":" rest
  | none => false

/-- The signature of a function stands here. -/
def Front.signature (ts : List Token) : Bool :=
  let skip (text : String) (ts : List Token) : List Token :=
    match ident? ts with
    | some (i, rest) => if i.is text then rest else ts
    | none => ts
  let afterQualifiers := skip "unsafe" (skip "async" (skip "const" ts))
  let afterAbi := match ident? afterQualifiers with
    | some (i, rest) =>
      if i.is "extern" then
        match literal? rest with
        | some (text, _, tail) =>
          match Literal.ofText text with
          | .text _ => tail
          | _ => rest
        | none => rest
      else afterQualifiers
    | none => afterQualifiers
  kw "fn" afterAbi

namespace Phrases

open DeclMacros.Parser

/-! ## Fields -/

/-- A nested structure or union stands here. -/
def nestedFields (ts : List Token) : Bool :=
  Front.kw "struct" ts || (Front.kw "union" ts && Front.second (Front.group .brace) ts)

/-- A field with a name.  A field called `_` may hold the fields of a nested structure or union,
    which are kept as they were read. -/
def namedField (P : Phrases) : Parser Field := do
  let attrs ← outerAttrs
  let vis ← visibility
  let i ← nameOrUnderscore
  let colon ← op ":"
  if i.is "_" && (← peek nestedFields) then
    let (_, tokens) ← recording do
      let _ ← anyIdent
      delimited .brace (commaList P.field)
    return ⟨attrs, vis, some i, colon, .verbatim tokens⟩
  else return ⟨attrs, vis, some i, colon, ← P.type⟩

/-- A field without a name. -/
def tupleField (P : Phrases) : Parser Field := do
  let attrs ← outerAttrs
  let vis ← visibility
  return ⟨attrs, vis, none, [], ← P.type⟩

/-- Fields with names, in braces. -/
def namedFields (P : Phrases) : Parser (Separated Field × Span) :=
  delimited .brace (commaList P.namedField)

/-- Fields without names, in parentheses. -/
def tupleFields (P : Phrases) : Parser (Separated Field × Span) :=
  delimited .parenthesis (commaList P.tupleField)

/-! ## Functions -/

/-- A receiver. -/
def receiver (attrs : List Attribute) : Parser FnArg := do
  let reference ← optOp "&"
  let life ← if reference.isEmpty then pure [] else optLifetime
  let mutability ← optKw "mut"
  return .receiver attrs reference life mutability (← kw "self")

/-- A parameter with a pattern and a type.  A parameter may lack its pattern when its type is a name
    with arguments; it then gets the pattern `_`. -/
def typedParam (P : Phrases) (attrs : List Attribute) : Parser FnArg := do
  if (← peekName) && (← peek2 (Front.op "<")) then
    let span := (← lookAhead name).span
    return .typed attrs { tokens := [.ident { text := "_", span := span }] }
      [.punct ':' .alone span] (← P.type)
  else
    let pattern ← P.alternatives false
    let colon ← op ":"
    if ← peekOp "..." then return .typed attrs pattern colon (.verbatim (← op "..."))
    else return .typed attrs pattern colon (← P.type)

/-- A parameter of a function. Three dots alone are a variadic parameter without a name. -/
def fnArg (P : Phrases) : Parser FnArg := do
  let attrs ← outerAttrs
  if ← peekOp "..." then
    let dots ← op "..."
    let colon := [Token.punct ':' .alone (Tokens.span dots)]
    return .typed attrs { tokens := dots, form := .verbatim } colon (.verbatim dots)
  else if ← peek Front.receiver then receiver attrs
  else P.typedParam attrs

/-- The parameters of a function. A receiver must come first, and there may be only one. -/
def fnArgs (P : Phrases) : Parser (Separated FnArg) := fun i =>
  go (Token.sizes i.tokens + 1) false true i
where
  /-- Reads on; `seen` tells whether there was a receiver, `first` whether nothing was read. -/
  go : Nat → Bool → Bool → Parser (Separated FnArg)
    | 0, _, _ => fail .nestedTooDeep
    | fuel + 1, seen, first => do
      if ← atEnd then return []
      let arg ← P.fnArg
      let seen' ← match arg with
        | .receiver _ _ _ _ self =>
          if seen then failAt self.span .secondReceiver
          else if !first then failAt self.span .misplacedReceiver
          else pure true
        | .typed .. => pure seen
      if ← atEnd then return [(arg, [])]
      let comma ← op ","
      return (arg, comma) :: (← go fuel seen' false)

/-- Moves a variadic parameter that ends the list out of it. -/
def splitVariadic (inputs : Separated FnArg) : Separated FnArg × Variadic :=
  match inputs.reverse with
  | (.typed attrs pattern _ ty, separator) :: before =>
    if !ty.isDots then (inputs, .absent)
    else if pattern.isDots && separator.isEmpty then
      (before.reverse, .trailing (Attribute.outerTokens attrs ++ ty.tokens))
    else (inputs, .lastParameter ty.tokens)
  | _ => (inputs, .absent)

/-- The signature of a function. -/
def signature (P : Phrases) : Parser Signature := do
  let constness ← optKw "const"
  let asyncness ← optKw "async"
  let unsafety ← optKw "unsafe"
  let convention ← abi
  let keyword ← kw "fn"
  let i ← name
  let params ← P.generics
  let (inputs, span) ← delimited .parenthesis P.fnArgs
  let out ← P.output true
  let clause ← P.whereClause
  let (inputs, variadic) := splitVariadic inputs
  return { constness := constness, asyncness := asyncness, unsafety := unsafety,
           abi := convention, keyword := keyword, name := i,
           generics := { params with whereClause := clause }, inputs := inputs, parens := span,
           variadic := variadic, output := out }

/-- The body of a function: the attributes inside it, its statements and its place. -/
def fnBody (P : Phrases) : Parser ((List Attribute × Tokens) × Span) :=
  delimited .brace do return (← innerAttrs, ← P.statements)

end Phrases

end DeclMacros
