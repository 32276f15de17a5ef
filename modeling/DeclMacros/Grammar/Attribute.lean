import DeclMacros.Tree.Attribute

/-! # Reading attributes and visibilities -/

set_option autoImplicit false

namespace DeclMacros

/-- A name of a plain path stands here: a name, or a keyword that can start a path. -/
def Front.pathName (ts : List Token) : Bool :=
  name ts || ["super", "self", "Self", "crate"].any (kw · ts)

namespace Parser

/-- A plain path. -/
def plainPath : Parser PlainPath := do
  let leading ← optOp "::"
  let names ← separated (fun ts => !Front.pathName ts) (Front.op "::") anyIdent (op "::")
  if names.isEmpty then failPhrase "path"
  else if names.emptyOrTrailing then failPhrase "path segment"
  else return ⟨leading, names⟩

/-- An attribute of what follows. -/
def outerAttr : Parser Attribute := do
  let pound ← op "#"
  let ((path, arguments), span) ← delimited .bracket do return (← plainPath, ← remaining)
  return ⟨pound, [], span, path, arguments⟩

/-- An attribute of what it stands in. -/
def innerAttr : Parser Attribute := do
  let pound ← op "#"
  let bang ← op "!"
  let ((path, arguments), span) ← delimited .bracket do return (← plainPath, ← remaining)
  return ⟨pound, bang, span, path, arguments⟩

/-- The attributes before a phrase. -/
def outerAttrs : Parser (List Attribute) :=
  many do
    if ← peekOp "#" then return some (← outerAttr) else return none

/-- The attributes at the start of a block. -/
def innerAttrs : Parser (List Attribute) :=
  many do
    if (← peekOp "#") && (← peek2 (Front.op "!")) then return some (← innerAttr)
    else return none

/-- The module of a restricted visibility, inside its parentheses.  A keyword must be all there is,
    else the parentheses belong to something else. -/
def restriction : Parser (Option (Tokens × PlainPath)) := do
  if (← peekKw "crate") || (← peekKw "self") || (← peekKw "super") then
    let name ← anyIdent
    if ← atEnd then return some ([], ⟨[], [(name, [])]⟩) else return none
  else if ← peekKw "in" then
    let keyword ← kw "in"
    return some ([keyword], ← plainPath)
  else return none

/-- A visibility that starts with `pub`.  The parentheses are entered only if they hold a
    restriction. -/
def publicVisibility : Parser Visibility := do
  let keyword ← kw "pub"
  if ← peekGroup .parenthesis then
    let before ← get
    let (found, span) ← delimited .parenthesis restriction
    match found with
    | some (inside, path) => return .restricted keyword span inside path
    | none =>
      set before
      return .everywhere keyword
  else return .everywhere keyword

/-- A visibility, which may be empty.  An invisible group without content is one that was
    substituted as empty. -/
def visibility : Parser Visibility := fun i =>
  match Front.invisible? i.tokens with
  | some ([], _, rest) => .ok (.inherited, { i with tokens := rest })
  | _ => written i
where
  /-- A visibility by its first keyword. -/
  written : Parser Visibility := do
    if ← peekKw "pub" then publicVisibility
    else if (← peekKw "crate") && !(← peek2 (Front.op "::")) then
      return .crate (← kw "crate")
    else return .inherited

/-- The arguments of an attribute, read by `p`: one group of any delimiter after the path. -/
def attrArguments {α : Type} (a : Attribute) (p : Parser α) : Except Failure α :=
  run (do
    if ← atEnd then
      let place := (Tokens.span a.pound).join a.brackets
      failAt place (.argumentsMissing a.display)
    else if ← peekOp "=" then fail (.argumentsNotParenthesised a.display)
    else
      let delimiter ← do
        if ← peekGroup .parenthesis then pure Delimiter.parenthesis
        else if ← peekGroup .bracket then pure Delimiter.bracket
        else if ← peekGroup .brace then pure Delimiter.brace
        else fail .argumentsMalformed
      let before ← get
      let _ ← delimited delimiter remaining
      if !(← atEnd) then fail .argumentsMalformed
      set before
      return (← delimited delimiter p).1) a.arguments

end Parser

end DeclMacros
