/-! # Spans

    A span says where a token stands in the source text it was read from, as a
    half-open range of character offsets.  Tokens that a generator makes have no place
    in the source: theirs is the *call site*. -/

set_option autoImplicit false

namespace DeclMacros

/-- A place in the source text, or the call site for tokens that come from no text. -/
inductive Span where
  | callSite
  | source (start stop : Nat)
deriving DecidableEq, Repr, Inhabited

/-- A line, counted from 1, and a column, counted from 0 in characters. -/
structure Position where
  line : Nat
  column : Nat
deriving DecidableEq, Repr

namespace Span

/-- The smallest range that covers both; the first span alone when one of them has no place. -/
def join : Span → Span → Span
  | .source a b, .source c d => .source (min a c) (max b d)
  | first, _ => first

/-- The first character of a span. -/
def firstChar : Span → Span
  | .callSite => .callSite
  | .source a b => .source a (min (a + 1) b)

/-- The last character of a span. -/
def lastChar : Span → Span
  | .callSite => .callSite
  | .source a b => .source (max (b - 1) a) b

/-- The span that runs from the first of a list to the last. -/
def cover : List Span → Span
  | [] => .callSite
  | [s] => s
  | s :: rest => s.join ((s :: rest).getLast?.getD s)

/-- The part of the source that the span covers; the call site covers no text. -/
def text? (source : List Char) : Span → Option String
  | .callSite => none
  | .source a b => some (String.ofList ((source.drop a).take (b - a)))

end Span

/-- Line and column of the end of a piece of text that starts at `p`; only a line feed ends a line.
    -/
def Position.after (p : Position) : List Char → Position
  | [] => p
  | c :: cs =>
    if c = '\n' then Position.after ⟨p.line + 1, 0⟩ cs
    else Position.after ⟨p.line, p.column + 1⟩ cs

/-- Line and column of a character offset. -/
def Position.ofOffset (source : List Char) (offset : Nat) : Position :=
  Position.after ⟨1, 0⟩ (source.take offset)

/-- Start and end position of a span, if it has a place. -/
def Span.positions? (source : List Char) : Span → Option (Position × Position)
  | .callSite => none
  | .source a b => some (.ofOffset source a, .ofOffset source b)

end DeclMacros
