import DeclMacros.Grammar.Stmt

/-! # Reading items -/

set_option autoImplicit false

namespace DeclMacros

namespace Front

/-- An identifier or keyword that can start the path of a macro call. -/
def macroPath (ts : List Token) : Bool :=
  name ts || kw "self" ts || kw "super" ts || kw "crate" ts || op "::" ts

/-- Generic parameters follow the word `impl`, as opposed to a self type in angle brackets. -/
def implGenerics (ts : List Token) : Bool :=
  let bound (r : List Token) := op ":" r || op "," r || op ">" r || op "=" r
  op "<" ts
    && (second (fun r => op ">" r || op "#" r || kw "const" r) ts
      || (second (fun r => name r || lifetime r) ts && third bound ts))

end Front

/-- What the start of a macro call can be, for messages. -/
def macroPathWanted : List Wanted :=
  [.phrase "identifier", .token "self", .token "super", .token "crate", .token "::"]

namespace Phrases

open DeclMacros.Parser

/-- Fails because none of the keywords stands here; those that do, but were refused for what follows
    them, are not listed. -/
def failKeywords {α : Type} (keywords : List String) (more : List Wanted) : Parser α := do
  let ts := (← get).tokens
  failExpected ((keywords.filter fun k => !Front.kw k ts).map .token ++ more)

/-! ## Structures, enumerations, unions -/

/-- A semicolon after the fields of a tuple structure, and the where clause before it. -/
def afterTuple (P : Phrases) : Parser (Option WhereClause × Tokens) := do
  if ← peekKw "where" then
    let clause ← P.whereClause
    if ← peekOp ";" then return (clause, ← op ";") else failExpected [.token ";"]
  else if ← peekOp ";" then return (none, ← op ";")
  else failExpected [.token "where", .token ";"]

/-- The fields of a structure with its where clause. -/
def structBody (P : Phrases) : Parser (Option WhereClause × Fields × Tokens) := do
  if ← peekKw "where" then
    let clause ← P.whereClause
    if ← peekGroup .brace then
      let (fields, span) ← P.namedFields
      return (clause, .named fields span, [])
    else if ← peekOp ";" then return (clause, .unit, ← op ";")
    else failExpected [.phrase "curly braces", .token ";"]
  else if ← peekGroup .parenthesis then
    let (fields, span) ← P.tupleFields
    let (clause, semicolon) ← P.afterTuple
    return (clause, .tuple fields span, semicolon)
  else if ← peekGroup .brace then
    let (fields, span) ← P.namedFields
    return (none, .named fields span, [])
  else if ← peekOp ";" then return (none, .unit, ← op ";")
  else
    failExpected [.token "where", .phrase "parentheses", .phrase "curly braces", .token ";"]

/-- A structure. -/
def structDecl (P : Phrases) (attrs : List Attribute) : Parser StructDecl := do
  let vis ← visibility
  let keyword ← kw "struct"
  let i ← name
  let params ← P.generics
  let (clause, fields, semicolon) ← P.structBody
  return ⟨attrs, vis, keyword, i, { params with whereClause := clause }, fields, semicolon⟩

/-- A variant of an enumeration. A visibility is accepted and dropped. -/
def variant (P : Phrases) : Parser Variant := do
  let attrs ← outerAttrs
  let _ ← visibility
  let i ← name
  let fields ← do
    if ← peekGroup .brace then
      let (fields, span) ← P.namedFields
      pure (Fields.named fields span)
    else if ← peekGroup .parenthesis then
      let (fields, span) ← P.tupleFields
      pure (Fields.tuple fields span)
    else pure Fields.unit
  if ← peekOp "=" then
    let equals ← op "="
    return ⟨attrs, i, fields, equals ++ (← P.expr true).tokens⟩
  else return ⟨attrs, i, fields, []⟩

/-- An enumeration. -/
def enumDecl (P : Phrases) (attrs : List Attribute) : Parser EnumDecl := do
  let vis ← visibility
  let keyword ← kw "enum"
  let i ← name
  let params ← P.generics
  let clause ← P.whereClause
  let (variants, span) ← delimited .brace (commaList P.variant)
  return ⟨attrs, vis, keyword, i, { params with whereClause := clause }, variants, span⟩

/-- A union. -/
def unionDecl (P : Phrases) (attrs : List Attribute) : Parser UnionDecl := do
  let vis ← visibility
  let keyword ← kw "union"
  let i ← name
  let params ← P.generics
  let clause ← P.whereClause
  let (fields, span) ← P.namedFields
  return ⟨attrs, vis, keyword, i, { params with whereClause := clause }, fields, span⟩

/-! ## Associated types and macro calls -/

/-- Where the where clause of a type alias can stand. -/
inductive ClausePlace where
  | beforeEquals
  | anywhere
deriving DecidableEq

/-- A type alias or associated type from its keyword on; `ty` is the type with its equals sign. -/
def typeAlias (P : Phrases) (place : ClausePlace) : Parser AliasDecl := do
  let keyword ← kw "type"
  let i ← name
  let params ← P.generics
  let colon ← optOp ":"
  let stop (ts : List Token) := Front.kw "where" ts || Front.op "=" ts || Front.op ";" ts
  let bounds ←
    if colon.isEmpty then pure []
    else separated stop (fun ts => !stop ts) P.bound (op "+")
  let before ← P.whereClause
  let ty ← do
    if ← peekOp "=" then
      let equals ← op "="
      pure (equals ++ (← P.type).tokens)
    else pure []
  let clause ← if place = .anywhere && before.isNone then P.whereClause else pure before
  return ⟨keyword, i, { params with whereClause := clause }, colon, bounds, ty, ← op ";"⟩

/-- A macro call in item position, which ends with a semicolon unless its arguments are in
    braces. -/
def macroItem (labelled : Bool) : Parser Tokens := do
  let path ← plainPath
  let bang ← op "!"
  let label ←
    if labelled && (← peekName) then pure [Token.ident (← name)] else pure []
  let arguments ← anyDelimited
  let semicolon ← match arguments with
    | .group .brace _ _ => pure []
    | _ => op ";"
  return path.tokens ++ bang ++ label ++ arguments :: semicolon

/-! ## Traits -/

/-- A method of a trait after its attributes. -/
def traitMethod (P : Phrases) (attrs : List Attribute) : Parser TraitMethod := do
  let sig ← P.signature
  if ← peekGroup .brace then
    let ((inner, statements), span) ← P.fnBody
    return ⟨attrs ++ inner, sig, .block statements span⟩
  else if ← peekOp ";" then return ⟨attrs, sig, .semicolon (← op ";")⟩
  else failExpected [.phrase "curly braces", .token ";"]

/-- A constant of a trait after its attributes. -/
def traitConst (P : Phrases) (attrs : List Attribute) : Parser TraitItem := do
  let keyword ← kw "const"
  let i ← nameOrUnderscore
  let colon ← op ":"
  let ty ← P.type
  let value ← do
    if ← peekOp "=" then
      let equals ← op "="
      pure (equals ++ (← P.expr true).tokens)
    else pure []
  let semicolon ← op ";"
  return .const attrs i (!value.isEmpty)
    (keyword :: .ident i :: colon ++ ty.tokens ++ value ++ semicolon)

/-- A member of a trait after its attributes, visibility and `default`. -/
def traitItemBody (P : Phrases) (attrs : List Attribute) : Parser TraitItem := do
  if ← peek Front.signature then return .method (← P.traitMethod attrs)
  else if ← peekKw "const" then
    let keywords := ["async", "unsafe", "extern", "fn"]
    if ← peek2 fun ts => Front.name ts || Front.kw "_" ts then P.traitConst attrs
    else if ← peek2 fun ts => keywords.any (Front.kw · ts) then
      return .method (← P.traitMethod attrs)
    else
      let _ ← kw "const"
      failExpected (.phrase "identifier" :: .token "_" :: keywords.map .token)
  else if ← peekKw "type" then
    let found ← P.typeAlias .anywhere
    return .type attrs found.name found.memberTokens
  else if ← peek Front.macroPath then return .macroCall attrs (← macroItem false)
  else failExpected ([.token "fn", .token "const", .token "type"] ++ macroPathWanted)

/-- A member of a trait. One with a visibility or a `default` is kept as it was read. -/
def traitItem (P : Phrases) : Parser TraitItem := do
  let start ← get
  let attrs ← outerAttrs
  let vis ← visibility
  let defaultness ← optKw "default"
  let item ← P.traitItemBody attrs
  if vis.isInherited && defaultness.isEmpty then return item
  else return .verbatim (← consumedSince start)

/-- Repeats a parser to the end of the input. -/
def untilEnd {α : Type} (p : Parser α) : Parser (List α) :=
  many do
    if ← atEnd then return none else return some (← p)

/-- The rest of a trait after its generic parameters. -/
def traitRest (P : Phrases) (attrs : List Attribute) (vis : Visibility) (unsafety auto : Tokens)
    (keyword : Token) (i : Ident) (params : Generics) : Parser TraitDecl := do
  let colon ← optOp ":"
  let stop (ts : List Token) := Front.kw "where" ts || Front.group .brace ts
  let supertraits ←
    if colon.isEmpty then pure []
    else separated stop (fun ts => !stop ts) P.bound (op "+")
  let clause ← P.whereClause
  let ((inner, items), span) ← delimited .brace do return (← innerAttrs, ← untilEnd P.traitItem)
  return ⟨attrs ++ inner, vis, unsafety, auto, keyword, i, { params with whereClause := clause },
    colon, supertraits, items, span⟩

/-- A trait that is unsafe or automatic. -/
def qualifiedTrait (P : Phrases) (attrs : List Attribute) : Parser Item := do
  let vis ← visibility
  let unsafety ← optKw "unsafe"
  let auto ← optKw "auto"
  let keyword ← kw "trait"
  let i ← name
  let params ← P.generics
  return .trait (← P.traitRest attrs vis unsafety auto keyword i params)

/-- A trait or an alias for bounds. -/
def traitOrAlias (P : Phrases) (attrs : List Attribute) : Parser Item := do
  let vis ← visibility
  let keyword ← kw "trait"
  let i ← name
  let params ← P.generics
  if ← peek fun ts => Front.group .brace ts || Front.op ":" ts || Front.kw "where" ts then
    return .trait (← P.traitRest attrs vis [] [] keyword i params)
  else if ← peekOp "=" then
    let equals ← op "="
    let stop (ts : List Token) := Front.kw "where" ts || Front.op ";" ts
    let bounds ← separated stop (fun ts => !stop ts) P.bound (op "+")
    let clause := ((← P.whereClause).map WhereClause.tokens).getD []
    let semicolon ← op ";"
    return .other attrs (vis.tokens ++ keyword :: .ident i :: params.tokens ++ equals
      ++ Bound.listTokens bounds ++ clause ++ semicolon)
  else failExpected [.phrase "curly braces", .token ":", .token "where", .token "="]

/-! ## Implementations -/

/-- A method of an implementation; a semicolon may stand in place of its body. -/
def implMethod (P : Phrases) (attrs : List Attribute) : Parser Tokens := do
  let vis ← visibility
  let defaultness ← optKw "default"
  let sig ← P.signature
  let head := vis.tokens ++ defaultness ++ sig.tokens
  if ← peekOp ";" then
    return attrs.flatMap Attribute.tokens ++ head ++ (← op ";")
  else
    let ((inner, statements), span) ← P.fnBody
    return attrs.flatMap Attribute.tokens ++ head
      ++ [.group .brace (Attribute.innerTokens inner ++ statements) span]

/-- A constant of an implementation; one without a value is kept as it was read. -/
def implConst (P : Phrases) (start : Input) (attrs : List Attribute) : Parser Tokens := do
  let vis ← visibility
  let defaultness ← optKw "default"
  let keyword ← kw "const"
  let i ← nameOrUnderscore
  let colon ← op ":"
  let ty ← P.type
  if ← peekOp "=" then
    let equals ← op "="
    let value ← P.expr true
    return attrs.flatMap Attribute.tokens ++ vis.tokens ++ defaultness
      ++ keyword :: .ident i :: colon ++ ty.tokens ++ equals ++ value.tokens ++ (← op ";")
  else
    let _ ← op ";"
    consumedSince start

/-- An associated type of an implementation. -/
def implType (P : Phrases) (start : Input) (attrs : List Attribute) : Parser Tokens := do
  let vis ← visibility
  let defaultness ← optKw "default"
  let found ← P.typeAlias .anywhere
  if found.isRegular then
    return attrs.flatMap Attribute.tokens ++ vis.tokens ++ defaultness ++ found.memberTokens
  else consumedSince start

/-- A member of an implementation. -/
def implItem (P : Phrases) : Parser Tokens := do
  let start ← get
  let attrs ← outerAttrs
  let ((plain, ahead), hasDefault) ← lookAhead do
    let vis ← visibility
    let hasDefault := (← peekKw "default") && !(← peek2 (Front.op "!"))
    if hasDefault then let _ ← kw "default"
    return ((vis.isInherited && !hasDefault, ← get), hasDefault)
  let ts := ahead.tokens
  if Front.signature ts then P.implMethod attrs
  else if Front.kw "const" ts then
    if Front.second (fun r => Front.name r || Front.kw "_" r) ts then P.implConst start attrs
    else
      set ahead
      let _ ← kw "const"
      failExpected [.phrase "identifier", .token "_"]
  else if Front.kw "type" ts then P.implType start attrs
  else if plain && Front.macroPath ts then
    return attrs.flatMap Attribute.tokens ++ (← macroItem false)
  else
    set ahead
    failKeywords ((if hasDefault then [] else ["default"]) ++ ["fn", "const", "type"])
      (if plain then macroPathWanted else [])

/-- The path inside substituted types. -/
def substitutedPath? : Ty → Bool
  | .path _ => true
  | .group inner _ => substitutedPath? inner
  | _ => false

/-- A type with the substitution around it removed. -/
def unsubstituted : Ty → Ty
  | .group inner _ => unsubstituted inner
  | other => other

/-- The trait and type of an implementation: the tokens from the polarity to the type, and whether
    the trait is not a path. -/
def implTarget (P : Phrases) : Parser (Tokens × Bool) := do
  let start ← get
  let polarity ← do
    if (← peekOp "!") && !(← peek2 (Front.group .brace)) then op "!" else pure []
  let first ← P.type
  if ← peekKw "for" then
    let keyword ← kw "for"
    let self ← P.type
    if substitutedPath? first then
      return (polarity ++ (unsubstituted first).tokens ++ keyword :: self.tokens, false)
    else return ([], true)
  else if polarity.isEmpty then return (first.tokens, false)
  else return (← consumedSince start, false)

/-- An implementation. One with a visibility, or for constants only, is kept as it was read. -/
def implDecl (P : Phrases) (start : Input) (attrs : List Attribute) : Parser Item := do
  let vis ← visibility
  let defaultness ← optKw "default"
  let unsafety ← optKw "unsafe"
  let keyword ← kw "impl"
  let params ← if ← peek Front.implGenerics then P.generics else pure {}
  let isConst ← peek fun ts =>
    Front.kw "const" ts || (Front.op "?" ts && Front.second (Front.kw "const") ts)
  if isConst then
    let _ ← optOp "?"
    let _ ← kw "const"
  let (target, irregular) ← P.implTarget
  let clause := ((← P.whereClause).map WhereClause.tokens).getD []
  let (content, span) ← delimited .brace do
    let inner ← innerAttrs
    return Attribute.innerTokens inner ++ (← untilEnd P.implItem).flatten
  if !vis.isInherited || isConst || irregular then return .verbatim (← consumedSince start)
  else
    return .other attrs (defaultness ++ unsafety ++ keyword :: params.tokens ++ target ++ clause
      ++ [.group .brace content span])

/-! ## Other items -/

/-- A name or an underscore after `as`. -/
def rename : Parser Tokens := do
  let keyword ← kw "as"
  if (← peekName) || (← peekKw "_") then return [keyword, .ident (← anyIdent)]
  else failPhrase "identifier or underscore"

/-- What follows `use`. -/
def anyUseTree (P : Phrases) : Parser Tokens := do
  let keywords := ["self", "super", "crate"]
  if ← peek fun ts => Front.name ts || keywords.any (Front.kw · ts) then
    let i ← anyIdent
    if ← peekOp "::" then
      let colons ← op "::"
      return .ident i :: colons ++ (← P.useTree)
    else if ← peekKw "as" then return .ident i :: (← rename)
    else return [.ident i]
  else if ← peekOp "*" then op "*"
  else if ← peekGroup .brace then
    let (trees, span) ← delimited .brace (commaList P.useTree)
    return [.group .brace (trees.tokens id) span]
  else
    failExpected (.phrase "identifier" :: keywords.map .token
      ++ [.token "*", .phrase "curly braces"])

/-- An import. -/
def useItem (P : Phrases) : Parser Tokens := do
  let vis ← visibility
  let keyword ← kw "use"
  let leading ← optOp "::"
  let tree ← P.anyUseTree
  return vis.tokens ++ keyword :: leading ++ tree ++ (← op ";")

/-- The import of a whole library. -/
def externCrate : Parser Tokens := do
  let vis ← visibility
  let keyword ← kw "extern"
  let crate ← kw "crate"
  let i ← if ← peekKw "self" then anyIdent else name
  let renamed ← do
    if ← peekKw "as" then
      let as ← kw "as"
      let target ← nameOrUnderscore
      pure [as, Token.ident target]
    else pure []
  return vis.tokens ++ keyword :: crate :: .ident i :: renamed ++ (← op ";")

/-- The head of a static variable: its tokens up to the name. -/
def staticHead : Parser Tokens := do
  let vis ← visibility
  let keyword ← kw "static"
  let mutability ← optKw "mut"
  let i ← name
  return vis.tokens ++ keyword :: mutability ++ [.ident i]

/-- A static variable. One without a type or without a value is kept as it was read. -/
def staticItem (P : Phrases) (start : Input) (attrs : List Attribute) : Parser Item := do
  let head ← staticHead
  if ← peekOp "=" then
    let _ ← op "="
    let _ ← P.expr true
    let _ ← op ";"
    return .verbatim (← consumedSince start)
  else
    let colon ← op ":"
    let ty ← P.type
    if ← peekOp ";" then
      let _ ← op ";"
      return .verbatim (← consumedSince start)
    else
      let equals ← op "="
      let value ← P.expr true
      return .other attrs (head ++ colon ++ ty.tokens ++ equals ++ value.tokens ++ (← op ";"))

/-- A constant. One without a value is kept as it was read. -/
def constItem (P : Phrases) (start : Input) (attrs : List Attribute) : Parser Item := do
  let vis ← visibility
  let keyword ← kw "const"
  let i ← do
    if (← peekName) || (← peekKw "_") then anyIdent
    else failExpected [.phrase "identifier", .token "_"]
  let colon ← op ":"
  let ty ← P.type
  if ← peekOp ";" then
    let _ ← op ";"
    return .verbatim (← consumedSince start)
  else
    let equals ← op "="
    let value ← P.expr true
    return .other attrs (vis.tokens ++ keyword :: .ident i :: colon ++ ty.tokens ++ equals
      ++ value.tokens ++ (← op ";"))

/-- A member of a block of foreign declarations. -/
def foreignItem (P : Phrases) : Parser Tokens := do
  let start ← get
  let attrs := (← outerAttrs).flatMap Attribute.tokens
  let (plain, ahead) ← lookAhead do return ((← visibility).isInherited, ← get)
  let ts := ahead.tokens
  if Front.signature ts then
    let vis ← visibility
    let sig ← P.signature
    if ← peekGroup .brace then
      let _ ← P.attributedBlock
      consumedSince start
    else return attrs ++ vis.tokens ++ sig.tokens ++ (← op ";")
  else if Front.kw "static" ts then
    let head ← staticHead
    let colon ← op ":"
    let ty ← P.type
    if ← peekOp "=" then
      let _ ← op "="
      let _ ← P.expr true
      let _ ← op ";"
      consumedSince start
    else return attrs ++ head ++ colon ++ ty.tokens ++ (← op ";")
  else if Front.kw "type" ts then
    let vis ← visibility
    let found ← P.typeAlias .anywhere
    if found.isPlain then return attrs ++ vis.tokens ++ found.memberTokens else consumedSince start
  else if plain && Front.macroPath ts then return attrs ++ (← macroItem false)
  else
    set ahead
    failExpected ([.token "fn", .token "static", .token "type"]
      ++ (if plain then macroPathWanted else []))

/-- A block of foreign declarations. -/
def foreignBlock (P : Phrases) : Parser Tokens := do
  let _ ← lookAhead (kw "extern")
  let convention ← abi
  let (content, span) ← delimited .brace do
    let inner ← innerAttrs
    return Attribute.innerTokens inner ++ (← untilEnd P.foreignItem).flatten
  return convention ++ [.group .brace content span]

/-- A module. -/
def moduleItem (P : Phrases) : Parser Tokens := do
  let vis ← visibility
  let keyword ← kw "mod"
  let i ← name
  let head := vis.tokens ++ [keyword, .ident i]
  if ← peekOp ";" then return head ++ (← op ";")
  else if ← peekGroup .brace then
    let (content, span) ← delimited .brace do
      let inner ← innerAttrs
      return Attribute.innerTokens inner ++ (← untilEnd P.item).flatMap Item.tokens
    return head ++ [.group .brace content span]
  else failExpected [.token ";", .phrase "curly braces"]

/-- A macro by rules of the newer kind. -/
def macroDecl : Parser Tokens := do
  let vis ← visibility
  let keyword ← kw "macro"
  let i ← name
  let head := vis.tokens ++ [keyword, .ident i]
  if ← peekGroup .parenthesis then
    let (arguments, span) ← delimited .parenthesis remaining
    let (body, span') ← delimited .brace remaining
    return head ++ [.group .parenthesis arguments span, .group .brace body span']
  else if ← peekGroup .brace then
    let (body, span) ← delimited .brace remaining
    return head ++ [.group .brace body span]
  else failExpected [.phrase "parentheses", .phrase "curly braces"]

/-- An item that starts with `extern`; `ahead` is the input at that word. -/
def externItem (P : Phrases) (ahead : Input) (attrs : List Attribute) : Parser Item := do
  if Front.second (Front.kw "crate") ahead.tokens then return .other attrs (← externCrate)
  else if Front.second (Front.group .brace) ahead.tokens then
    return .other attrs (← P.foreignBlock)
  else
    let start ← get
    set ahead
    let _ ← kw "extern"
    if ← peekText then
      let _ ← lit
      if ← peekGroup .brace then
        set start
        return .other attrs (← P.foreignBlock)
      else failExpected [.phrase "curly braces"]
    else failExpected [.token "crate", .phrase "curly braces", .phrase "string literal"]

/-- An item that starts with `unsafe`; `ahead` is the input at that word. -/
def unsafeItem (P : Phrases) (start ahead : Input) (attrs : List Attribute) : Parser Item := do
  let next (test : List Token → Bool) : Bool := Front.second test ahead.tokens
  if next (Front.kw "trait") || next (fun r => Front.kw "auto" r && Front.second (Front.kw "trait") r)
    then P.qualifiedTrait attrs
  else if next (Front.kw "impl") then P.implDecl start attrs
  else if next (Front.kw "extern") then
    let _ ← visibility
    let _ ← kw "unsafe"
    let _ ← P.foreignBlock
    return .verbatim (← consumedSince start)
  else if next (Front.kw "mod") then
    let _ ← visibility
    let _ ← kw "unsafe"
    let _ ← P.moduleItem
    return .verbatim (← consumedSince start)
  else
    set ahead
    let _ ← kw "unsafe"
    failKeywords ["trait", "auto", "impl", "extern", "mod"] []

/-- A function with a body; one without is kept as it was read. -/
def fnItem (P : Phrases) (start : Input) (attrs : List Attribute) : Parser Item := do
  let vis ← visibility
  let sig ← P.signature
  if ← peekOp ";" then
    let _ ← op ";"
    return .verbatim (← consumedSince start)
  else
    let ((inner, statements), span) ← P.fnBody
    return .function ⟨attrs ++ inner, vis, sig, statements, span⟩

/-- A type alias. One with bounds or without a type is kept as it was read. -/
def aliasItem (P : Phrases) (start : Input) (attrs : List Attribute) : Parser Item := do
  let vis ← visibility
  let found ← P.typeAlias .beforeEquals
  if found.isRegular then return .other attrs (vis.tokens ++ found.tokens)
  else return .verbatim (← consumedSince start)

/-- The keywords an item can start with, in the order in which they are tried. -/
def itemKeywords : List String :=
  ["fn", "extern", "use", "static", "const", "unsafe", "mod", "type", "struct", "enum", "union",
   "trait", "auto", "impl", "default", "macro"]

/-- An item. -/
def anyItem (P : Phrases) : Parser Item := do
  let start ← get
  let attrs ← outerAttrs
  let (plain, ahead) ← lookAhead do return ((← visibility).isInherited, ← get)
  let ts := ahead.tokens
  if Front.signature ts then P.fnItem start attrs
  else if Front.kw "extern" ts then P.externItem ahead attrs
  else if Front.kw "use" ts then return .other attrs (← P.useItem)
  else if Front.kw "static" ts then P.staticItem start attrs
  else if Front.kw "const" ts then P.constItem start attrs
  else if Front.kw "unsafe" ts then P.unsafeItem start ahead attrs
  else if Front.kw "mod" ts then return .other attrs (← P.moduleItem)
  else if Front.kw "type" ts then P.aliasItem start attrs
  else if Front.kw "struct" ts then return .struct (← P.structDecl attrs)
  else if Front.kw "enum" ts then return .enum (← P.enumDecl attrs)
  else if Front.kw "union" ts && Front.second Front.name ts then return .union (← P.unionDecl attrs)
  else if Front.kw "trait" ts then P.traitOrAlias attrs
  else if Front.kw "auto" ts && Front.second (Front.kw "trait") ts then P.qualifiedTrait attrs
  else if Front.kw "impl" ts || (Front.kw "default" ts && !Front.second (Front.op "!") ts) then
    P.implDecl start attrs
  else if Front.kw "macro" ts then return .other attrs (← macroDecl)
  else if plain && Front.macroPath ts then return .other attrs (← macroItem true)
  else
    set ahead
    failKeywords itemKeywords (if plain then macroPathWanted else [])

end Phrases

end DeclMacros
