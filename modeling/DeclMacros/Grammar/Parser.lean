import DeclMacros.Grammar.Fault
import DeclMacros.Token.Literal

/-! # Reading token sequences

    A parser consumes tokens from the front of an `Input`.  Invisible groups are
    transparent: wherever a visible token is asked for, they are opened.  Tokens that
    remain in a group when its reader is done do not stop the parse; the first of them
    is remembered and reported when the whole input has been read. -/

set_option autoImplicit false

namespace DeclMacros

/-- What is left to read. -/
structure Input where
  tokens : List Token
  /-- Where the end of this input is reported. -/
  scope : Span := .callSite
  /-- The first token left over in a group that was already left. -/
  leftover : Option Span := none

/-- A parser over token sequences. -/
abbrev Parser := StateT Input (Except Failure)

namespace Input

/-- Nothing is left. -/
def isEmpty (i : Input) : Bool := i.tokens.isEmpty

/-- Where the next token, or the end, is reported. -/
def span (i : Input) : Span :=
  match i.tokens with
  | [] => i.scope
  | t :: _ => t.openSpan

end Input

/-! ## What stands at the front of a sequence -/

namespace Front

/-- An identifier or keyword. -/
def ident? (ts : List Token) : Option (Ident × List Token) :=
  match Token.exposedFront ts with
  | .ident i :: rest => some (i, rest)
  | _ => none

/-- A punctuation character other than an apostrophe. -/
def punct? (ts : List Token) : Option (Char × Spacing × Span × List Token) :=
  match Token.exposedFront ts with
  | .punct c s sp :: rest => if c = '\'' then none else some (c, s, sp, rest)
  | _ => none

/-- A literal. -/
def literal? (ts : List Token) : Option (String × Span × List Token) :=
  match Token.exposedFront ts with
  | .literal t sp :: rest => some (t, sp, rest)
  | _ => none

/-- A group with visible delimiters: its content, its span and what follows. -/
def group? (d : Delimiter) (ts : List Token) : Option (List Token × Span × List Token) :=
  match Token.exposedFront ts with
  | .group d' content sp :: rest => if d' = d then some (content, sp, rest) else none
  | _ => none

/-- An invisible group. -/
def invisible? (ts : List Token) : Option (List Token × Span × List Token) :=
  match ts with
  | .group .invisible content sp :: rest => some (content, sp, rest)
  | _ => none

/-- A lifetime: its apostrophe, its name and what follows. -/
def lifetime? (ts : List Token) : Option (Span × Ident × List Token) :=
  match Token.exposedFront ts with
  | .punct '\'' .joint sp :: rest =>
    match ident? rest with
    | some (name, tail) => some (sp, name, tail)
    | none => none
  | _ => none

/-- The characters of an operator, each but the last joint to the next, with their spans. -/
def operator? : List Char → List Token → Option (List (Char × Span) × List Token)
  | [], _ => none
  | c :: cs, ts =>
    match punct? ts with
    | some (d, spacing, sp, rest) =>
      if d ≠ c then none
      else if cs.isEmpty then some ([(c, sp)], rest)
      else if spacing = .joint then
        (operator? cs rest).map fun (more, tail) => ((c, sp) :: more, tail)
      else none
    | none => none

/-- Keywords and the underscore, none of which is a name. -/
def reserved : List String :=
  ["_", "abstract", "as", "become", "box", "break", "const", "continue", "crate", "do", "else",
   "enum", "extern", "false", "final", "fn", "for", "if", "impl", "in", "let", "loop", "macro",
   "match", "mod", "move", "mut", "override", "priv", "pub", "ref", "return", "Self", "self",
   "static", "struct", "super", "trait", "true", "type", "typeof", "unsafe", "unsized", "use",
   "virtual", "where", "while", "yield"]

/-- The identifier can serve as a name. -/
def isName (i : Ident) : Bool := !reserved.contains i.display

/-! ### Tests -/

/-- A name stands here. -/
def name (ts : List Token) : Bool :=
  match ident? ts with
  | some (i, _) => isName i
  | none => false

/-- An identifier or any keyword stands here. -/
def anyIdent (ts : List Token) : Bool := (ident? ts).isSome

/-- This keyword stands here. -/
def kw (text : String) (ts : List Token) : Bool :=
  match ident? ts with
  | some (i, _) => i.is text
  | none => false

/-- This operator stands here, possibly as the start of a longer one. -/
def op (text : String) (ts : List Token) : Bool :=
  (operator? text.toList ts).isSome

/-- A group of this kind stands here. -/
def group (d : Delimiter) (ts : List Token) : Bool := (group? d ts).isSome

/-- An invisible group stands here. -/
def invisible (ts : List Token) : Bool := (invisible? ts).isSome

/-- A lifetime stands here. -/
def lifetime (ts : List Token) : Bool := (lifetime? ts).isSome

/-- The sequence without its first token; a lifetime counts as one. -/
def skip? : List Token → Option (List Token)
  | [] => none
  | .punct '\'' .joint _ :: .ident _ :: rest => some rest
  | _ :: rest => some rest

/-- The test holds after the first token, inside or outside an invisible group. -/
def second (test : List Token → Bool) (ts : List Token) : Bool :=
  let inside := match invisible? ts with
    | some (content, _, _) => ((skip? content).map test).getD false
    | none => false
  inside || ((skip? ts).map test).getD false

/-- The test holds after the second token, inside or outside an invisible group. -/
def third (test : List Token → Bool) (ts : List Token) : Bool :=
  let inside := match invisible? ts with
    | some (content, _, _) => (((skip? content).bind skip?).map test).getD false
    | none => false
  inside || (((skip? ts).bind skip?).map test).getD false

end Front

namespace Parser

/-! ## Failing -/

/-- Fails with a cause at the next token, or at the end of the input. -/
def fail {α : Type} (cause : Cause) : Parser α := fun i =>
  .error (.fault ⟨cause, i.tokens.isEmpty, i.span⟩)

/-- Fails because none of the alternatives stands here. -/
def failExpected {α : Type} (alternatives : List Wanted) : Parser α :=
  fail (.expected alternatives)

/-- Fails because a named phrase does not stand here. -/
def failPhrase {α : Type} (name : String) : Parser α :=
  failExpected [.phrase name]

/-- Fails with a cause at a given place. -/
def failAt {α : Type} (span : Span) (cause : Cause) : Parser α := fun _ =>
  .error (.fault { cause := cause, span := span })

/-- Fails because the next token, a group as a whole, fits nothing. -/
def failUnexpected {α : Type} : Parser α := fun i =>
  match i.tokens with
  | [] => failAt i.scope .ended i
  | t :: _ => failAt t.span .unexpectedToken i

/-- Stops with a crash. -/
def crash {α : Type} (c : Crash) : Parser α := fun _ => .error (.crash c)

/-! ## Looking ahead -/

/-- A test on what stands next. -/
def peek (test : List Token → Bool) : Parser Bool := do
  return test (← get).tokens

/-- A test on what stands after the next token. -/
def peek2 (test : List Token → Bool) : Parser Bool := peek (Front.second test)

/-- A test on what stands after the next two tokens. -/
def peek3 (test : List Token → Bool) : Parser Bool := peek (Front.third test)

/-- The next token is this keyword. -/
def peekKw (text : String) : Parser Bool := peek (Front.kw text)

/-- The next tokens are this operator. -/
def peekOp (text : String) : Parser Bool := peek (Front.op text)

/-- The next token is a group of this kind. -/
def peekGroup (d : Delimiter) : Parser Bool := peek (Front.group d)

/-- The next token is a name. -/
def peekName : Parser Bool := peek Front.name

/-- The input is at its end. -/
def atEnd : Parser Bool := do
  return (← get).isEmpty

/-- Runs a parser without consuming anything; `none` when it fails. A crash stays a crash. -/
def attempt? {α : Type} (p : Parser α) : Parser (Option (α × Input)) := fun i =>
  match p i with
  | .ok (a, rest) => .ok (some (a, rest), i)
  | .error (.fault _) => .ok (none, i)
  | .error (.crash c) => .error (.crash c)

/-- Runs a parser without consuming anything. -/
def lookAhead {α : Type} (p : Parser α) : Parser α := fun i =>
  match p i with
  | .ok (a, _) => .ok (a, i)
  | .error e => .error e

/-! ## Single tokens -/

/-- A keyword. -/
def kw (text : String) : Parser Token := fun i =>
  match Front.ident? i.tokens with
  | some (name, rest) =>
    if name.is text then .ok (.ident name, { i with tokens := rest })
    else failExpected [.token text] i
  | none => failExpected [.token text] i

/-- A keyword, if it stands here. -/
def optKw (text : String) : Parser Tokens := do
  if ← peekKw text then return [← kw text] else return []

/-- An operator, printed with its last character alone.  A mismatch is reported at its first
    character, and the end of the input does not change the wording. -/
def op (text : String) : Parser Tokens := fun i =>
  match Front.operator? text.toList i.tokens with
  | some (chars, rest) => .ok (Tokens.glued chars, { i with tokens := rest })
  | none =>
    let span := match Front.punct? i.tokens with
      | some (_, _, sp, _) => sp
      | none => i.span
    failAt span (.expected [.token text]) i

/-- An operator, if it stands here. -/
def optOp (text : String) : Parser Tokens := do
  if ← peekOp text then op text else return []

/-- An identifier or any keyword. -/
def anyIdent : Parser Ident := fun i =>
  match Front.ident? i.tokens with
  | some (name, rest) => .ok (name, { i with tokens := rest })
  | none => failPhrase "ident" i

/-- A name. -/
def name : Parser Ident := fun i =>
  match Front.ident? i.tokens with
  | some (found, rest) =>
    if Front.isName found then .ok (found, { i with tokens := rest })
    else failPhrase "identifier" i
  | none => failPhrase "identifier" i

/-- A name or an underscore. -/
def nameOrUnderscore : Parser Ident := do
  if ← peekKw "_" then anyIdent else name

/-- A lifetime, as tokens. -/
def lifetime : Parser Tokens := fun i =>
  match Front.lifetime? i.tokens with
  | some (sp, found, rest) =>
    .ok ([.punct '\'' .joint sp, .ident found], { i with tokens := rest })
  | none => failPhrase "lifetime" i

/-- A lifetime, if one stands here. -/
def optLifetime : Parser Tokens := do
  if ← peek Front.lifetime then lifetime else return []

/-! ## Literals -/

/-- A literal as the grammar sees it: a literal token, `true` or `false`, or a number with a minus
    sign. -/
structure Lit where
  kind : Literal
  isBool : Bool := false
  /-- A minus sign belongs to the literal. -/
  negative : Bool := false
  tokens : Tokens
  span : Span

/-- The literal that stands here, and what follows it.  A literal token of an unknown kind is a
    crash. -/
def litFront? (ts : List Token) : Except Crash (Option (Lit × List Token)) :=
  match Front.literal? ts with
  | some (text, sp, rest) =>
    match Literal.ofText text with
    | .unknown => .error (.unknownLiteral text)
    | kind => .ok (some ({ kind := kind, tokens := [.literal text sp], span := sp }, rest))
  | none =>
    match Front.ident? ts, Front.punct? ts with
    | some (i, rest), _ =>
      if i.is "true" || i.is "false" then
        .ok (some ({ kind := .unknown, isBool := true, tokens := [.ident i], span := i.span }, rest))
      else .ok none
    | none, some ('-', _, sp, afterMinus) =>
      match Front.literal? afterMinus with
      | some (text, sp', rest) =>
        let span := sp.join sp'
        let negative (kind : Literal) : Lit :=
          { kind := kind, negative := true,
            tokens := [.punct '-' .alone span, .literal text span], span := span }
        match Literal.ofText text with
        | .integer value suffix => .ok (some (negative (.integer value suffix), rest))
        | .float => .ok (some (negative .float, rest))
        | _ => .ok none
      | none => .ok none
    | _, _ => .ok none

/-- A literal stands here. -/
def peekLit : Parser Bool := fun i =>
  match litFront? i.tokens with
  | .ok found => .ok (found.isSome, i)
  | .error c => .error (.crash c)

/-- A literal. -/
def lit : Parser Lit := fun i =>
  match litFront? i.tokens with
  | .ok (some (found, rest)) => .ok (found, { i with tokens := rest })
  | .ok none => failPhrase "literal" i
  | .error c => .error (.crash c)

/-- A string literal stands here. -/
def peekText : Parser Bool := fun i =>
  match litFront? i.tokens with
  | .ok (some ({ kind := .text _, .. }, _)) => .ok (true, i)
  | .ok _ => .ok (false, i)
  | .error c => .error (.crash c)

/-! ## Groups -/

/-- How a missing group is named. -/
def groupName : Delimiter → String
  | .parenthesis => "parentheses"
  | .bracket => "square brackets"
  | .brace => "curly braces"
  | .invisible => "group"

/-- Where the first token stands that a reader left over, looking into invisible groups. -/
def leftoverSpan (ts : List Token) : Option Span :=
  match Token.exposedFront ts with
  | [] => none
  | t :: _ => some t.span

/-- Reads the content of a group with a parser of its own, which ends at the closing delimiter; also
    gives the first token that the parser left over. -/
def inside {α : Type} (i : Input) (content : List Token) (rest : List Token) (p : Parser α) :
    Except Failure ((α × Option Span) × Input) :=
  let close := match i.tokens with
    | t :: _ => t.closeSpan
    | [] => i.scope
  match p { tokens := content, scope := close, leftover := i.leftover } with
  | .ok (a, inner) =>
    .ok ((a, leftoverSpan inner.tokens), { i with tokens := rest, leftover := inner.leftover })
  | .error e => .error e

/-- A group of this kind, its content read by `p`; also the group's span, and the first token left
    over in it, which is yet to be remembered. -/
def entered {α : Type} (d : Delimiter) (p : Parser α) : Parser ((α × Span) × Option Span) := fun i =>
  let found := match d with
    | .invisible => Front.invisible? i.tokens
    | _ => Front.group? d i.tokens
  match found with
  | some (content, span, rest) => inside i content rest do return (← p, span)
  | none => failPhrase (groupName d) i

/-- Remembers a token that was left over, unless there was one before. -/
def remember (left : Option Span) : Parser Unit := fun i =>
  .ok ((), { i with leftover := i.leftover <|> left })

/-- A group of this kind, its content read by `p`; also the group's span. -/
def delimited {α : Type} (d : Delimiter) (p : Parser α) : Parser (α × Span) := do
  let (found, left) ← entered d p
  remember left
  return found

/-- All tokens that are left. -/
def remaining : Parser Tokens := fun i => .ok (i.tokens, { i with tokens := [] })

/-- One group with visible delimiters, kept as it is. -/
def anyDelimited : Parser Token := fun i =>
  match i.tokens with
  | .group d content span :: rest =>
    if d = .invisible then failPhrase "delimiter" i
    else .ok (.group d content span, { i with tokens := rest })
  | _ => failPhrase "delimiter" i

/-! ## Repetition -/

/-- Repeats until the parser gives nothing; `fuel` bounds the number of rounds. -/
def manyWithin {α : Type} (p : Parser (Option α)) : Nat → Parser (List α)
  | 0 => fail .nestedTooDeep
  | fuel + 1 => do
    match ← p with
    | none => return []
    | some a => return a :: (← manyWithin p fuel)

/-- Repeats until the parser gives nothing.  Each round consumes a token, so the number of tokens
    bounds the rounds. -/
def many {α : Type} (p : Parser (Option α)) : Parser (List α) := fun i =>
  manyWithin p (Token.sizes i.tokens + 1) i

/-- Repeats a step on a value until the step gives nothing; `fuel` bounds the number of rounds. -/
def iterateWithin {α : Type} (step : α → Parser (Option α)) : Nat → α → Parser α
  | 0, _ => fail .nestedTooDeep
  | fuel + 1, a => do
    match ← step a with
    | none => return a
    | some next => iterateWithin step fuel next

/-- Repeats a step on a value until the step gives nothing. -/
def iterate {α : Type} (step : α → Parser (Option α)) (a : α) : Parser α := fun i =>
  iterateWithin step (Token.sizes i.tokens + 1) a i

end Parser

/-- Values in sequence, each with the separator that follows it; the last may have none. -/
abbrev Separated (α : Type) := List (α × Tokens)

namespace Separated

/-- The values without their separators. -/
def values {α : Type} (s : Separated α) : List α := s.map (·.1)

/-- The tokens of a separated sequence. -/
def tokens {α : Type} (print : α → Tokens) (s : Separated α) : Tokens :=
  s.flatMap fun (a, separator) => print a ++ separator

/-- The sequence is empty or ends with a separator. -/
def emptyOrTrailing {α : Type} (s : Separated α) : Bool :=
  match s.getLast? with
  | none => true
  | some (_, separator) => !separator.isEmpty

end Separated

namespace Parser

/-- A separated sequence.  It ends where `done` holds before a value, or where `more` does not hold
    after one. -/
def separatedWithin {α : Type} (done more : List Token → Bool) (item : Parser α)
    (separator : Parser Tokens) : Nat → Parser (Separated α)
  | 0 => fail .nestedTooDeep
  | fuel + 1 => do
    if ← peek done then return []
    let value ← item
    if ← peek more then
      let sep ← separator
      return (value, sep) :: (← separatedWithin done more item separator fuel)
    else return [(value, [])]

/-- A separated sequence; see `separatedWithin`. -/
def separated {α : Type} (done more : List Token → Bool) (item : Parser α)
    (separator : Parser Tokens) : Parser (Separated α) := fun i =>
  separatedWithin done more item separator (Token.sizes i.tokens + 1) i

/-- Values with commas between them, up to the end of the input. -/
def commaList {α : Type} (item : Parser α) : Parser (Separated α) :=
  separated List.isEmpty (fun ts => !ts.isEmpty) item (op ",")

/-! ## Whole inputs -/

/-- Reads a whole token sequence.  Tokens left in a group are reported before tokens left at the
    end. -/
def run {α : Type} (p : Parser α) (ts : Tokens) : Except Failure α :=
  match p { tokens := ts } with
  | .error e => .error e
  | .ok (a, rest) =>
    match rest.leftover with
    | some span => .error (.fault { cause := .unexpectedToken, span := span })
    | none =>
      match leftoverSpan rest.tokens with
      | some span => .error (.fault { cause := .unexpectedToken, span := span })
      | none => .ok a

/-! ## Tokens as they were read -/

/-- The number of visible tokens in a sequence, a visible group counting as one.  It does not change
    when an invisible group is opened, so it marks a place in the input. -/
def visibleCount (ts : List Token) : Nat :=
  ts.foldr (fun t n => countOne t + n) 0
where
  /-- A visible token counts as one, an invisible group as its content. -/
  countOne : Token → Nat
    | .group .invisible content _ => countAll content
    | _ => 1
  /-- The count of a sequence. -/
  countAll : List Token → Nat
    | [] => 0
    | t :: ts => countOne t + countAll ts

/-- The tokens from the front of a sequence until `remaining` visible tokens are left.  An invisible
    group that the boundary crosses is opened. -/
def takeUntil (remaining : Nat) : Nat → List Token → Tokens
  | 0, _ => []
  | _ + 1, [] => []
  | fuel + 1, t :: ts =>
    if visibleCount (t :: ts) ≤ remaining then []
    else if remaining ≤ visibleCount ts then t :: takeUntil remaining fuel ts
    else
      match t with
      | .group .invisible content _ => takeUntil remaining fuel (content ++ ts)
      | _ => []

/-- Runs a parser and gives, beside its value, the tokens that it consumed as they stood in the
    source. -/
def recording {α : Type} (p : Parser α) : Parser (α × Tokens) := do
  let start ← get
  let a ← p
  let stop ← get
  return (a, takeUntil (visibleCount stop.tokens) (Token.sizes start.tokens + 1) start.tokens)

/-- The tokens consumed since an earlier state, as they stood in the source. -/
def consumedSince (start : Input) : Parser Tokens := do
  let stop ← get
  return takeUntil (visibleCount stop.tokens) (Token.sizes start.tokens + 1) start.tokens

end Parser

end DeclMacros
