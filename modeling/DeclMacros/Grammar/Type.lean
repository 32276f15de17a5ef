import DeclMacros.Grammar.Path
import DeclMacros.Tree.Generics

/-! # Reading types, bounds and generic parameters -/

set_option autoImplicit false

namespace DeclMacros

/-- A bound can follow a plus sign here. -/
def Front.bound (ts : List Token) : Bool :=
  anyIdent ts || op "::" ts || op "?" ts || lifetime ts || group .parenthesis ts

/-- A type starts with a path here. -/
def Front.typeName (ts : List Token) : Bool :=
  pathName ts || op "::" ts || op "<" ts

/-- The end of a where clause or of the bounds in it. -/
def Front.predicateEnd (ts : List Token) : Bool :=
  ts.isEmpty || group .brace ts || op "," ts || op ";" ts
    || (op ":" ts && !op "::" ts) || op "=" ts

/-- The bound names a trait. -/
def Bound.isTrait : Bound → Bool
  | .trait .. => true
  | .lifetime _ => false

/-- The place of the name of the last lifetime among bounds. -/
def Bound.lastLifetimeSpan (bounds : List (Bound × Tokens)) : Span :=
  bounds.foldl (fun found (b, _) =>
    match b with
    | .lifetime (_ :: .ident i :: _) => i.span
    | _ => found) .callSite

namespace Phrases

open DeclMacros.Parser

/-! ## Bounds -/

/-- A lifetime parameter with its bounds. -/
def lifetimeParam : Parser GenericParam := do
  let attrs ← outerAttrs
  let i ← lifetime
  let colon ← optOp ":"
  if colon.isEmpty then return .lifetime attrs i [] []
  else
    let bounds ← separated Front.constraintEnd (Front.op "+") lifetime (op "+")
    return .lifetime attrs i colon bounds

/-- The lifetimes that a higher-ranked type or bound introduces, with their `for`. -/
def boundLifetimes : Parser Tokens := do
  let keyword ← kw "for"
  let less ← op "<"
  let params ← separated (Front.op ">") (fun ts => !Front.op ">" ts) lifetimeParam (op ",")
  let greater ← op ">"
  return keyword :: less ++ params.tokens GenericParam.tokens ++ greater

/-- The lifetimes introduced here, if any. -/
def optBoundLifetimes : Parser Tokens := do
  if ← peekKw "for" then boundLifetimes else return []

/-- A trait bound without its parentheses. -/
def traitBound (P : Phrases) (parens : Option Span) : Parser Bound := do
  let tilde ← do
    if (← peekOp "~") && (← peek2 (Front.kw "const")) then
      let tilde ← op "~"
      pure (tilde ++ [← kw "const"])
    else pure []
  let question ← optOp "?"
  let lifetimes ← optBoundLifetimes
  return .trait parens (tilde ++ question ++ lifetimes) (← P.traitPath)

/-- A bound: a lifetime, or a trait that may stand in parentheses. -/
def anyBound (P : Phrases) : Parser Bound := do
  if ← peek Front.lifetime then return .lifetime (← lifetime)
  else if ← peekGroup .parenthesis then
    let (found, span) ← delimited .parenthesis (P.traitBound none)
    match found with
    | .trait _ modifiers path => return .trait (some span) modifiers path
    | other => return other
  else P.traitBound none

/-- Bounds with plus signs between them; a plus sign may end them. -/
def boundList (P : Phrases) (allowPlus : Bool) : Parser (List (Bound × Tokens)) := do
  let first ← P.anyBound
  if allowPlus && (← peekOp "+") then
    let plus ← op "+"
    let more ← separated (fun ts => !(Front.bound ts || Front.op "~" ts)) (Front.op "+")
      P.anyBound (op "+")
    return (first, plus) :: more
  else return [(first, [])]

/-- Bounds among which there must be a trait. -/
def traitBounds (P : Phrases) (allowPlus : Bool) (start : Span) (cause : Cause) :
    Parser (List (Bound × Tokens)) := do
  let bounds ← P.boundList allowPlus
  if bounds.any fun (b, _) => b.isTrait then return bounds
  else failAt (start.join (Bound.lastLifetimeSpan bounds)) cause

/-- A trait object without a keyword, which starts with a lifetime. -/
def bareObject (P : Phrases) : Parser Ty := do
  let keyword ← optKw "dyn"
  let next := (← get).span
  let start := (keyword.head?.map Token.span).getD next
  return .traitObject keyword (← P.traitBounds true start .objectWithoutTrait)

/-! ## Types -/

/-- The plus signs and bounds after a first bound. -/
def moreBounds (P : Phrases) (first : Bound) : Parser (List (Bound × Tokens)) := do
  let plus ← optOp "+"
  if plus.isEmpty then return [(first, [])]
  else
    let more ← separated (fun _ => false) (Front.op "+") P.anyBound (op "+")
    return (first, plus) :: more

/-- A type in parentheses read as a bound, if it is a path or a single bound. -/
def asBound (parens : Span) : Ty → Option Bound
  | .path p => some (.trait (some parens) [] p)
  | .traitObject [] [(.trait _ modifiers path, [])] => some (.trait (some parens) modifiers path)
  | .traitObject [] [(.lifetime tokens, [])] => some (.lifetime tokens)
  | _ => none

/-- What stands between the parentheses of a type. -/
inductive Parenthesised where
  | tuple (elements : List (Ty × Tokens))
  | object (ty : Ty)
  | optional (bound : Bound)
  | single (ty : Ty)

/-- The content of a type in parentheses. -/
def parenthesised (P : Phrases) : Parser Parenthesised := do
  if ← atEnd then return .tuple []
  else if ← peek Front.lifetime then return .object (← P.bareObject)
  else if ← peekOp "?" then return .optional (← P.traitBound none)
  else
    let first ← P.type
    if ← peekOp "," then
      let comma ← op ","
      return .tuple ((first, comma) :: (← commaList P.type))
    else return .single first

/-- The type that the content of the parentheses at `span` and the bounds after them make. -/
def afterParens (P : Phrases) (allowPlus : Bool) (span : Span) : Parenthesised → Parser Ty
  | .tuple elements => return .tuple elements span
  | .object ty => return .paren ty span
  | .optional (.trait _ modifiers path) =>
    return .traitObject [] (← P.moreBounds (.trait (some span) modifiers path))
  | .optional bound => return .traitObject [] (← P.moreBounds bound)
  | .single ty => do
    if allowPlus && (← peekOp "+") then
      match asBound span ty with
      | some bound => return .traitObject [] (← P.moreBounds bound)
      | none => return .paren ty span
    else return .paren ty span

/-- A type that starts with parentheses.  The parentheses are left after the bounds that follow
    them. -/
def parenType (P : Phrases) (allowPlus : Bool) : Parser Ty := do
  let ((content, span), left) ← entered .parenthesis P.parenthesised
  let ty ← P.afterParens allowPlus span content
  remember left
  return ty

/-- The calling convention of a function, if any. -/
def abi : Parser Tokens := do
  if ← peekKw "extern" then
    let keyword ← kw "extern"
    if ← peekText then return keyword :: (← lit).tokens else return [keyword]
  else return []

/-- The words `mut self`, if they stand here. -/
def mutSelf? : Parser Bool := do
  if (← peekKw "mut") && (← peek2 (Front.kw "self")) then
    let _ ← kw "mut"
    let _ ← kw "self"
    return true
  else return false

/-- The type of a parameter of a function pointer type; `none` for a `mut self`. -/
def pointerInputType (P : Phrases) : Parser (Option Ty) := do
  if ← peekOp "..." then return some (.verbatim (← op "..."))
  else if ← mutSelf? then return none
  else return some (← P.type)

/-- A parameter of a function pointer type after its attributes; `none` for a `mut self`, which
    makes the whole type be kept as it was read. -/
def pointerInput (P : Phrases) (attrs : Tokens) : Parser (Option FnInput) := do
  let named := (← peekName) || (← peekKw "_") || (← peekKw "self")
  if named && (← peek2 (Front.op ":")) && !(← peek2 (Front.op "::")) then
    let i ← anyIdent
    let colon ← op ":"
    return (← P.pointerInputType).map (.mk (attrs ++ .ident i :: colon))
  else
    match ← P.pointerInputType with
    | some ty => return some (.mk attrs ty)
    | none =>
      if (← peekOp ":") && !(← peekOp "::") then
        let _ ← op ":"
        let _ ← P.type
      return none

/-- The parameters of a function pointer type, and the dots at their end.  From a `mut self` on the
    commas are not recorded, so that only one more parameter can be. -/
def pointerInputs (P : Phrases) : Parser (Separated (Option FnInput) × Tokens) := fun i =>
  go (Token.sizes i.tokens + 1) false false i
where
  /-- Reads on; `seen` tells whether there was a `mut self`, `full` whether the last parameter that
      was recorded lacks its comma. -/
  go : Nat → Bool → Bool → Parser (Separated (Option FnInput) × Tokens)
    | 0, _, _ => fail .nestedTooDeep
    | fuel + 1, seen, full => do
      if ← atEnd then return ([], [])
      let attrs := (← outerAttrs).flatMap Attribute.tokens
      if !full && (← peekOp "...") then return ([], attrs ++ (← op "..."))
      let input ← P.pointerInput attrs
      if full && input.isSome then crash .missingSeparator
      if ← atEnd then return ([(input, [])], [])
      let comma ← op ","
      let seen := seen || input.isNone
      let (more, dots) ← go fuel seen (seen && (full || input.isSome))
      return ((input, comma) :: more, dots)

/-- A function pointer type after its lifetimes. The parameters are left after the return type. -/
def pointerType (P : Phrases) (start : Input) (lifetimes : Tokens) : Parser Ty := do
  let unsafety ← optKw "unsafe"
  let convention ← abi
  let keyword ← kw "fn"
  let (((inputs, variadic), span), left) ← entered .parenthesis P.pointerInputs
  let out ← P.output false
  remember left
  if inputs.any fun (a, _) => a.isNone then return .verbatim (← consumedSince start)
  else
    let given := inputs.filterMap fun (a, separator) => a.map fun a => (a, separator)
    return .fnPointer (lifetimes ++ unsafety ++ convention ++ [keyword]) given variadic span out

/-- A type that starts with a name. -/
def namedType (P : Phrases) (allowPlus : Bool) (start : Input) (lifetimes : Tokens) :
    Parser Ty := do
  if ← peekKw "dyn" then
    let keyword ← kw "dyn"
    let star ← optOp "*"
    let bounds ← P.traitBounds allowPlus keyword.span .objectWithoutTrait
    if star.isEmpty then return .traitObject [keyword] bounds
    else return .verbatim (← consumedSince start)
  else
    let ty ← P.typePath
    match ty with
    | .path p =>
      if (← peekOp "!") && !(← peekOp "!=") && !p.hasArguments then
        let bang ← op "!"
        return .macroCall p.tokens bang (← anyDelimited)
      else if !lifetimes.isEmpty || (allowPlus && (← peekOp "+")) then
        let first := Bound.trait none lifetimes p
        if allowPlus && (← peekOp "+") then
          let plus ← op "+"
          let more ← separated (fun ts => !Front.bound ts) (Front.op "+") P.anyBound (op "+")
          return .traitObject [] ((first, plus) :: more)
        else return .traitObject [] [(first, [])]
      else return ty
    | other => return other

/-- A slice or array type. -/
def bracketType (P : Phrases) : Parser Ty := do
  let ((element, length), span) ← delimited .bracket do
    let element ← P.type
    if ← peekOp ";" then
      let semicolon ← op ";"
      return (element, some (semicolon, ← P.expr true))
    else return (element, none)
  match length with
  | some (semicolon, length) => return .array element semicolon length span
  | none => return .slice element span

/-- A raw pointer type. -/
def rawPointerType (P : Phrases) : Parser Ty := do
  let star ← op "*"
  let mutability ← do
    if ← peekKw "const" then kw "const"
    else if ← peekKw "mut" then kw "mut"
    else failExpected [.token "const", .token "mut"]
  return .pointer (star ++ [mutability]) (← P.typeWithoutPlus)

/-- A reference type. -/
def referenceType (P : Phrases) : Parser Ty := do
  let ampersand ← op "&"
  let life ← optLifetime
  let mutability ← optKw "mut"
  return .reference ampersand life mutability (← P.typeWithoutPlus)

/-- A type that was substituted as a whole, and the path that may continue it. -/
def substitutedType (P : Phrases) (allowArguments : Bool) : Parser Ty := do
  let (inner, span) ← delimited .invisible P.type
  if (← peekOp "::") && (← peek3 Front.anyIdent) then
    match inner with
    | .path .. | .qualified .. => P.typeRest inner
    | other =>
      let p ← P.path false
      return .qualified [.punct '<' .alone span] other [] (.mk [] []) [.punct '>' .alone span]
        p.leading p.segments
  else if (allowArguments && (← peekOp "<")) || ((← peekOp "::") && (← peek3 (Front.op "<"))) then
    match inner, inner.lastArguments with
    | .path .., .none | .qualified .., .none =>
      P.typeRest (inner.withLastArguments (← P.angleArgs))
    | _, _ => return .group inner span
  else return .group inner span

/-- What can follow the lifetimes of a higher-ranked type. -/
def afterLifetimes : Parser Unit := do
  let keywords := ["fn", "unsafe", "extern", "super", "self", "Self", "crate"]
  let found ← peek fun ts => Front.name ts || keywords.any (Front.kw · ts)
  if !found then failExpected (.phrase "identifier" :: keywords.map .token)
  else if ← peekKw "dyn" then failUnexpected

/-- A type. -/
def anyType (P : Phrases) (allowPlus allowArguments : Bool) : Parser Ty := do
  if ← peek Front.invisible then P.substitutedType allowArguments
  else
    let start ← get
    let lifetimes ← optBoundLifetimes
    if !lifetimes.isEmpty then afterLifetimes
    if ← peekGroup .parenthesis then P.parenType allowPlus
    else if (← peekKw "fn") || (← peekKw "unsafe") || (← peekKw "extern") then
      P.pointerType start lifetimes
    else if ← peek Front.typeName then P.namedType allowPlus start lifetimes
    else if ← peekGroup .bracket then P.bracketType
    else if ← peekOp "*" then P.rawPointerType
    else if ← peekOp "&" then P.referenceType
    else if ← peekOp "!" then return .never (← op "!")
    else if ← peekKw "impl" then
      let keyword ← kw "impl"
      return .implTrait keyword (← P.traitBounds allowPlus keyword.span .opaqueWithoutTrait)
    else if ← peekKw "_" then return .infer (← kw "_")
    else if ← peek Front.lifetime then P.bareObject
    else
      failExpected [.token "for", .phrase "parentheses", .token "fn", .token "unsafe",
        .token "extern", .phrase "identifier", .token "::", .token "<", .phrase "square brackets",
        .token "*", .token "&", .token "!", .token "impl", .token "_", .phrase "lifetime"]

/-! ## Generic parameters -/

/-- A bound of a type parameter, and whether it is a conditionally constant one. -/
def paramBound (P : Phrases) : Parser (Bound × Bool) := do
  if (← peekOp "~") && (← peek2 (Front.kw "const")) then
    let _ ← op "~"
    let _ ← kw "const"
    return (← P.bound, true)
  else return (← P.bound, false)

/-- A type parameter after its attributes.  With a conditionally constant bound all that follows the
    colon is kept as it was read, and belongs to the default. -/
def typeParam (P : Phrases) (attrs : List Attribute) (i : Ident) : Parser GenericParam := do
  let colon ← optOp ":"
  let start ← get
  let stop (ts : List Token) := Front.constraintEnd ts || Front.op "=" ts
  let bounds ←
    if colon.isEmpty then pure []
    else separated stop (Front.op "+") P.paramBound (op "+")
  let equals ← optOp "="
  let initial ← if equals.isEmpty then pure [] else pure (equals ++ (← P.type).tokens)
  if bounds.any fun ((_, conditional), _) => conditional then
    return .type attrs i colon [] (colon ++ (← consumedSince start))
  else return .type attrs i colon (bounds.map fun ((b, _), plus) => (b, plus)) initial

/-- A constant parameter after its attributes. -/
def constParam (P : Phrases) (attrs : List Attribute) : Parser GenericParam := do
  let keyword ← kw "const"
  let i ← name
  let colon ← op ":"
  let ty ← P.type
  let equals ← optOp "="
  if equals.isEmpty then return .const attrs keyword i colon ty []
  else return .const attrs keyword i colon ty (equals ++ (← P.constArgument).tokens)

/-- A generic parameter. -/
def genericParam (P : Phrases) : Parser GenericParam := do
  let attrs ← outerAttrs
  if ← peek Front.lifetime then
    match ← lifetimeParam with
    | .lifetime _ i colon bounds => return .lifetime attrs i colon bounds
    | other => return other
  else if ← peekName then P.typeParam attrs (← name)
  else if ← peekKw "const" then P.constParam attrs
  else if ← peekKw "_" then return .type attrs (← anyIdent) [] [] []
  else failExpected [.phrase "lifetime", .phrase "identifier", .token "const"]

/-- The generic parameters of a declaration, without a where clause. -/
def generics (P : Phrases) : Parser Generics := do
  if ← peekOp "<" then
    let less ← op "<"
    let params ← separated (Front.op ">") (fun ts => !Front.op ">" ts) P.genericParam (op ",")
    let greater ← op ">"
    return { less := less, params := params, greater := greater }
  else return {}

/-- A condition of a where clause. -/
def predicate (P : Phrases) : Parser Tokens := do
  if (← peek Front.lifetime) && (← peek2 (Front.op ":")) then
    let i ← lifetime
    let colon ← op ":"
    let stop (ts : List Token) := Front.predicateEnd ts || Front.op "::" ts
    let bounds ← separated stop (Front.op "+") lifetime (op "+")
    return i ++ colon ++ bounds.tokens id
  else
    let lifetimes ← optBoundLifetimes
    let ty ← P.type
    let colon ← op ":"
    let bounds ← P.boundsUntil Front.predicateEnd
    return lifetimes ++ ty.tokens ++ colon ++ Bound.listTokens bounds

/-- A where clause, if one stands here. -/
def whereClause (P : Phrases) : Parser (Option WhereClause) := do
  if ← peekKw "where" then
    let keyword ← kw "where"
    let predicates ← separated Front.predicateEnd (Front.op ",") P.predicate (op ",")
    return some ⟨keyword, predicates⟩
  else return none

end Phrases

end DeclMacros
