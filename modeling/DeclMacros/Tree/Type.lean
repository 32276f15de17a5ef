import DeclMacros.Tree.Expr

/-! # Types

    The syntax of types, and the tokens that a type prints.  Punctuation and keywords
    are kept as tokens, because they carry the places at which a type is reported. -/

set_option autoImplicit false

namespace DeclMacros

mutual

/-- A type. -/
inductive Ty where
  /-- A path such as `a::B<C>`. -/
  | path (p : Path)
  /-- A path under a self type such as `<T as A>::B`: the opening angle bracket, the self type, the
      trait with its `as`, the closing bracket, and the double colon with the names after it. -/
  | qualified (less : Tokens) (self : Ty) (as : Tokens) (trait : Path) (greater separator : Tokens)
      (rest : List (Segment × Tokens))
  | reference (ampersand : Tokens) (lifetime mutability : Tokens) (target : Ty)
  | pointer (head : Tokens) (target : Ty)
  | slice (element : Ty) (span : Span)
  | array (element : Ty) (semicolon : Tokens) (length : Expr) (span : Span)
  | tuple (elements : List (Ty × Tokens)) (span : Span)
  | paren (inner : Ty) (span : Span)
  /-- A type that was substituted as a whole. -/
  | group (inner : Ty) (span : Span)
  | never (bang : Tokens)
  /-- The placeholder `_`. -/
  | infer (underscore : Token)
  | macroCall (path : Tokens) (bang : Tokens) (arguments : Token)
  | implTrait (keyword : Token) (bounds : List (Bound × Tokens))
  | traitObject (keyword : Tokens) (bounds : List (Bound × Tokens))
  | fnPointer (head : Tokens) (inputs : List (FnInput × Tokens)) (variadic : Tokens) (span : Span)
      (output : Output)
  /-- A form that is kept as it was read. -/
  | verbatim (tokens : Tokens)

/-- A path: its leading double colon, if any, and its segments with the double colons after them. -/
inductive Path where
  | mk (leading : Tokens) (segments : List (Segment × Tokens))

/-- One name of a path and its arguments. -/
inductive Segment where
  | mk (name : Ident) (arguments : SegmentArgs)

/-- The arguments of a path segment. -/
inductive SegmentArgs where
  | none
  | angle (less : Tokens) (arguments : List (GenericArg × Tokens)) (greater : Tokens)
  | parens (inputs : List (Ty × Tokens)) (span : Span) (output : Output)

/-- An argument between angle brackets. -/
inductive GenericArg where
  | lifetime (tokens : Tokens)
  | type (ty : Ty)
  | const (value : Expr)
  | binding (name : Ident) (equals : Tokens) (ty : Ty)
  | constraint (name : Ident) (colon : Tokens) (bounds : List (Bound × Tokens))

/-- A bound: a lifetime, or a trait with its modifiers, possibly in parentheses. -/
inductive Bound where
  | lifetime (tokens : Tokens)
  | trait (parens : Option Span) (modifiers : Tokens) (path : Path)

/-- A parameter of a function pointer type: attributes and name, and the type. -/
inductive FnInput where
  | mk (head : Tokens) (ty : Ty)

/-- A return type. -/
inductive Output where
  | none
  | arrow (arrow : Tokens) (ty : Ty)

end

/-! ## Printing -/

/-- The lifetimes among generic arguments, each with its separator. They are printed first. -/
def GenericArg.lifetimeTokens : List (GenericArg × Tokens) → Tokens
  | [] => []
  | (.lifetime tokens, separator) :: rest => tokens ++ separator ++ lifetimeTokens rest
  | _ :: rest => lifetimeTokens rest

/-- The comma between the lifetimes and the other arguments, where the last lifetime has none. -/
def GenericArg.comma : List (GenericArg × Tokens) → Tokens
  | [] => []
  | [(.lifetime _, separator)] => if separator.isEmpty then Tokens.op "," else []
  | _ :: rest => comma rest

mutual

/-- The tokens of a type. -/
def Ty.tokens : Ty → Tokens
  | .path p => p.tokens
  | .qualified less self as trait greater separator rest =>
    less ++ self.tokens ++ as ++ trait.tokens ++ greater ++ separator ++ Segment.listTokens rest
  | .reference ampersand lifetime mutability target =>
    ampersand ++ lifetime ++ mutability ++ target.tokens
  | .pointer head target => head ++ target.tokens
  | .slice element span => [.group .bracket element.tokens span]
  | .array element semicolon length span =>
    [.group .bracket (element.tokens ++ semicolon ++ length.tokens) span]
  | .tuple elements span => [.group .parenthesis (Ty.listTokens elements) span]
  | .paren inner span => [.group .parenthesis inner.tokens span]
  | .group inner span => [.group .invisible inner.tokens span]
  | .never bang => bang
  | .infer underscore => [underscore]
  | .macroCall path bang arguments => path ++ bang ++ [arguments]
  | .implTrait keyword bounds => keyword :: Bound.listTokens bounds
  | .traitObject keyword bounds => keyword ++ Bound.listTokens bounds
  | .fnPointer head inputs variadic span output =>
    head ++ [.group .parenthesis (FnInput.listTokens inputs ++ variadic) span] ++ output.tokens
  | .verbatim tokens => tokens

/-- The tokens of a sequence of types with their separators. -/
def Ty.listTokens : List (Ty × Tokens) → Tokens
  | [] => []
  | (t, separator) :: rest => t.tokens ++ separator ++ Ty.listTokens rest

/-- The tokens of a path. -/
def Path.tokens : Path → Tokens
  | .mk leading segments => leading ++ Segment.listTokens segments

/-- The tokens of path segments with their separators. -/
def Segment.listTokens : List (Segment × Tokens) → Tokens
  | [] => []
  | (s, separator) :: rest => s.tokens ++ separator ++ Segment.listTokens rest

/-- The tokens of a path segment. -/
def Segment.tokens : Segment → Tokens
  | .mk name arguments => .ident name :: arguments.tokens

/-- The tokens of the arguments of a path segment. -/
def SegmentArgs.tokens : SegmentArgs → Tokens
  | .none => []
  | .angle less arguments greater =>
    less ++ GenericArg.lifetimeTokens arguments
      ++ GenericArg.otherTokens (GenericArg.comma arguments) arguments ++ greater
  | .parens inputs span output =>
    .group .parenthesis (Ty.listTokens inputs) span :: output.tokens

/-- The generic arguments that are not lifetimes, with their separators; `comma` comes before the
    first. -/
def GenericArg.otherTokens (comma : Tokens) : List (GenericArg × Tokens) → Tokens
  | [] => []
  | (.lifetime _, _) :: rest => GenericArg.otherTokens comma rest
  | (a, separator) :: rest => comma ++ a.tokens ++ separator ++ GenericArg.otherTokens [] rest

/-- The tokens of a generic argument. -/
def GenericArg.tokens : GenericArg → Tokens
  | .lifetime tokens => tokens
  | .type ty => ty.tokens
  | .const value => value.tokens
  | .binding name equals ty => .ident name :: equals ++ ty.tokens
  | .constraint name colon bounds => .ident name :: colon ++ Bound.listTokens bounds

/-- The tokens of bounds with the plus signs after them. -/
def Bound.listTokens : List (Bound × Tokens) → Tokens
  | [] => []
  | (b, separator) :: rest => b.tokens ++ separator ++ Bound.listTokens rest

/-- The tokens of a bound. -/
def Bound.tokens : Bound → Tokens
  | .lifetime tokens => tokens
  | .trait (some span) modifiers path => [.group .parenthesis (modifiers ++ path.tokens) span]
  | .trait none modifiers path => modifiers ++ path.tokens

/-- The tokens of the parameters of a function pointer type. -/
def FnInput.listTokens : List (FnInput × Tokens) → Tokens
  | [] => []
  | (a, separator) :: rest => a.tokens ++ separator ++ FnInput.listTokens rest

/-- The tokens of a parameter of a function pointer type. -/
def FnInput.tokens : FnInput → Tokens
  | .mk head ty => head ++ ty.tokens

/-- The tokens of a return type. -/
def Output.tokens : Output → Tokens
  | .none => []
  | .arrow arrow ty => arrow ++ ty.tokens

end

/-! ## Queries -/

namespace Segment

/-- The name of a segment. -/
def name : Segment → Ident
  | .mk name _ => name

/-- The arguments of a segment. -/
def arguments : Segment → SegmentArgs
  | .mk _ arguments => arguments

end Segment

/-- The segment has no arguments, or an empty list of them. -/
def SegmentArgs.isEmpty : SegmentArgs → Bool
  | .none => true
  | .angle _ arguments _ => arguments.isEmpty
  | .parens .. => false

/-- The segment has arguments, be it an empty list of them. -/
def SegmentArgs.isPresent : SegmentArgs → Bool
  | .none => false
  | _ => true

namespace Path

/-- The leading double colon. -/
def leading : Path → Tokens
  | .mk leading _ => leading

/-- The segments with their separators. -/
def segments : Path → List (Segment × Tokens)
  | .mk _ segments => segments

/-- The last segment. -/
def last? (p : Path) : Option Segment :=
  p.segments.getLast?.map (·.1)

/-- The identifier, if the path is nothing else. -/
def ident? (p : Path) : Option Ident :=
  match p.leading, p.segments with
  | [], [(.mk name .none, _)] => some name
  | _, _ => none

/-- The path is just this identifier. -/
def isIdent (p : Path) (text : String) : Bool :=
  match p.ident? with
  | some i => i.is text
  | none => false

/-- Some segment has arguments. -/
def hasArguments (p : Path) : Bool :=
  p.segments.any fun (s, _) => s.arguments.isPresent

/-- A path that is one identifier. -/
def ofIdent (name : Ident) : Path := .mk [] [(.mk name .none, [])]

end Path

/-- The type inside a return type. -/
def Output.ty? : Output → Option Ty
  | .none => Option.none
  | .arrow _ ty => some ty

namespace Ty

/-- Where the type stands. -/
def span (t : Ty) : Span := Tokens.span t.tokens

/-- The type was left to inference. -/
def isInfer : Ty → Bool
  | .infer _ => true
  | _ => false

/-- A reference. -/
def isReference : Ty → Bool
  | .reference .. => true
  | _ => false

/-- An opaque type. -/
def isImplTrait : Ty → Bool
  | .implTrait .. => true
  | _ => false

/-- The only type argument of a type whose last name is `Option`. -/
def optionInner? : Ty → Option Ty
  | .path p =>
    match p.last? with
    | some (.mk name (.angle _ [(.type inner, _)] _)) => if name.is "Option" then some inner else none
    | _ => none
  | _ => none

/-- A type whose last name is `PhantomData`, which holds no data. -/
def isPhantom : Ty → Bool
  | .path p =>
    match p.last? with
    | some s => s.name.is "PhantomData"
    | none => false
  | _ => false

/-- The type is just `Self`. -/
def isSelf : Ty → Bool
  | .path p => p.isIdent "Self"
  | _ => false

end Ty

end DeclMacros
