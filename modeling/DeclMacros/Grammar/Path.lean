import DeclMacros.Grammar.Attribute
import DeclMacros.Grammar.Phrases

/-! # Reading paths

    Paths with generic arguments, as they occur in types and in expressions.  In an
    expression the arguments of a name stand after a double colon, since `<` alone is
    a comparison there. -/

set_option autoImplicit false

namespace DeclMacros

/-- The type arguments of the last segment of a path are replaced. -/
def Path.withLastArguments (arguments : SegmentArgs) : Path → Path
  | .mk leading segments =>
    match segments.reverse with
    | [] => .mk leading segments
    | (last, separator) :: before =>
      .mk leading (before.reverse ++ [(.mk last.name arguments, separator)])

/-- The type arguments of the last segment after a self type are replaced. -/
def Ty.withLastArguments (arguments : SegmentArgs) : Ty → Ty
  | .path p => .path (p.withLastArguments arguments)
  | .qualified less self as trait greater separator rest =>
    .qualified less self as trait greater separator
      ((Path.mk [] rest).withLastArguments arguments).segments
  | other => other

/-- The arguments of the last segment of a path type. -/
def Ty.lastArguments : Ty → SegmentArgs
  | .path p => (p.last?.map Segment.arguments).getD .none
  | .qualified _ _ _ _ _ _ rest => ((Path.mk [] rest).last?.map Segment.arguments).getD .none
  | _ => .none

/-- The end of the bounds of an associated type. -/
def Front.constraintEnd (ts : List Token) : Bool := op "," ts || op ">" ts

/-- A double colon follows that continues the path. -/
def Front.continuesPath (ts : List Token) : Bool :=
  op "::" ts && !third (group .parenthesis) ts

namespace Phrases

open DeclMacros.Parser

/-- A return type, if an arrow stands here. -/
def output (P : Phrases) (allowPlus : Bool) : Parser Output := do
  if ← peekOp "->" then
    let arrow ← op "->"
    return .arrow arrow (← P.ty allowPlus true)
  else return .none

/-- A block, as one group. -/
def block (P : Phrases) : Parser Token := do
  let (statements, span) ← delimited .brace P.statements
  return .group .brace statements span

/-- A block whose inner attributes are kept in front of its statements. -/
def attributedBlock (P : Phrases) : Parser Token := do
  let (content, span) ← delimited .brace do
    let attrs ← innerAttrs
    return attrs.flatMap Attribute.tokens ++ (← P.statements)
  return .group .brace content span

/-- Bounds with plus signs between them, up to a stop. -/
def boundsUntil (P : Phrases) (stop : List Token → Bool) : Parser (List (Bound × Tokens)) :=
  separated stop (Front.op "+") P.bound (op "+")

/-- A constant between angle brackets: a literal, a name, or a block. -/
def constArgument (P : Phrases) : Parser Expr := do
  if ← peekLit then return ⟨(← lit).tokens, .other⟩
  else if ← peekName then
    let i ← name
    return ⟨[.ident i], .path (some i)⟩
  else if ← peekGroup .brace then return ⟨[← P.attributedBlock], .blockLike⟩
  else failUnexpected

/-- The type after `Name =` between angle brackets. A constant is kept as it was read. -/
def boundType (P : Phrases) : Parser Ty := do
  if ← peekLit then return .verbatim (← recording lit).2
  else if ← peekGroup .brace then return .verbatim (← recording P.attributedBlock).2
  else P.type

/-- The type is one name with arguments in angle brackets. -/
def isApplied : Ty → Bool
  | .path (.mk [] [(.mk _ (.angle ..), _)]) => true
  | _ => false

/-- A type between angle brackets.  A name with arguments may be bound like an associated type, and
    is then kept as it was read. -/
def typeArgument (P : Phrases) : Parser Ty := do
  let start ← get
  let ty ← P.type
  if isApplied ty && (← peekOp "=") then
    let _ ← op "="
    let _ ← P.type
    return .verbatim (← consumedSince start)
  else if isApplied ty && (← peekOp ":") then
    let _ ← op ":"
    let _ ← P.boundsUntil Front.constraintEnd
    return .verbatim (← consumedSince start)
  else return ty

/-- An argument between angle brackets. -/
def genericArg (P : Phrases) : Parser GenericArg := do
  if (← peek Front.lifetime) && !(← peek2 (Front.op "+")) then return .lifetime (← lifetime)
  else if (← peekName) && (← peek2 (Front.op "=")) then
    let i ← name
    let equals ← op "="
    return .binding i equals (← P.boundType)
  else if (← peekName) && (← peek2 (Front.op ":")) && !(← peek2 (Front.op "::")) then
    let i ← name
    let colon ← op ":"
    return .constraint i colon (← P.boundsUntil Front.constraintEnd)
  else if (← peekLit) || (← peekGroup .brace) then return .const (← P.constArgument)
  else return .type (← P.typeArgument)

/-- Arguments in angle brackets, possibly after a double colon. -/
def angleArgs (P : Phrases) : Parser SegmentArgs := do
  let colons ← optOp "::"
  let less ← op "<"
  let arguments ← separated (Front.op ">") (fun ts => !Front.op ">" ts) P.genericArg (op ",")
  let greater ← op ">"
  return .angle (colons ++ less) arguments greater

/-- Arguments in parentheses, with a return type. -/
def parenArgs (P : Phrases) : Parser SegmentArgs := do
  let (inputs, span) ← delimited .parenthesis (commaList P.type)
  return .parens inputs span (← P.output false)

/-- One segment of a path. -/
def segment (P : Phrases) (inExpr : Bool) : Parser Segment := do
  if (← peekKw "super") || (← peekKw "self") || (← peekKw "crate") then
    return .mk (← anyIdent) .none
  else
    let i ← if ← peekKw "Self" then anyIdent else name
    let angle := !inExpr && (← peekOp "<") && !(← peekOp "<=")
    if angle || ((← peekOp "::") && (← peek3 (Front.op "<"))) then return .mk i (← P.angleArgs)
    else return .mk i .none

/-- The rest of a path after its first segments. -/
def pathRest (P : Phrases) (inExpr : Bool) (first : Path) : Parser Path := do
  if ← peek Front.continuesPath then
    let colons ← op "::"
    let more ← separated (fun _ => false) Front.continuesPath (P.segment inExpr) (op "::")
    match first.segments.reverse with
    | (last, _) :: before =>
      return .mk first.leading (before.reverse ++ (last, colons) :: more)
    | [] => return .mk first.leading more
  else return first

/-- A path. -/
def path (P : Phrases) (inExpr : Bool) : Parser Path := do
  let leading ← optOp "::"
  let segments ← separated (fun _ => false) Front.continuesPath (P.segment inExpr) (op "::")
  return .mk leading segments

/-- A path that may start with a self type in angle brackets. -/
def qualifiedPath (P : Phrases) (inExpr : Bool) : Parser Ty := do
  if ← peekOp "<" then
    let less ← op "<"
    let self ← P.type
    let (as, trait) ← do
      if ← peekKw "as" then
        let keyword ← kw "as"
        pure ([keyword], ← P.path false)
      else pure ([], Path.mk [] [])
    let greater ← op ">"
    let separator ← op "::"
    let rest ← separated (fun _ => false) (Front.op "::") (P.segment inExpr) (op "::")
    return .qualified less self as trait greater separator rest
  else return .path (← P.path inExpr)

/-- Arguments in parentheses can follow a segment that has none yet.  A double colon before them is
    dropped. -/
def peekParenArgs (arguments : SegmentArgs) : Parser Bool := do
  let double := (← peekOp "::") && (← peek3 (Front.group .parenthesis))
  return arguments.isEmpty && ((← peekGroup .parenthesis) || double)

/-- The rest of a path type after its first segments. -/
def typeRest (P : Phrases) : Ty → Parser Ty
  | .path p => return .path (← P.pathRest false p)
  | .qualified less self as trait greater separator rest => do
    let more ← P.pathRest false (.mk [] rest)
    return .qualified less self as trait greater separator more.segments
  | other => return other

/-- A path may go on after arguments in parentheses without a return type, or with one that is in
    parentheses itself. -/
def continuesAfter : SegmentArgs → Bool
  | .parens _ _ .none => true
  | .parens _ _ (.arrow _ (.paren ..)) => true
  | _ => false

/-- A path in a type, whose segments may have arguments in parentheses. -/
def typePath (P : Phrases) : Parser Ty := do
  iterate (fun ty => do
    if ← peekParenArgs ty.lastArguments then
      let _ ← optOp "::"
      let arguments ← P.parenArgs
      let applied := ty.withLastArguments arguments
      if continuesAfter arguments then return some (← P.typeRest applied) else return some applied
    else return none)
    (← P.qualifiedPath false)

/-- The path of a trait, possibly with arguments in parentheses at its end. -/
def traitPath (P : Phrases) : Parser Path := do
  let p ← P.path false
  if ← peekParenArgs ((p.last?.map Segment.arguments).getD .none) then
    let _ ← optOp "::"
    return p.withLastArguments (← P.parenArgs)
  else return p

end Phrases

end DeclMacros
