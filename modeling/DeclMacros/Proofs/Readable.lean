import Mathlib.Data.List.Infix
import DeclMacros.Grammar.Parser

/-! # Tokens that can be read without a crash

    A reader looks through invisible groups, so what it meets is the sequence of
    visible tokens (`openedAll`).  Opening the groups at the front of a sequence
    does not change that sequence (`openedAll_exposedFront`), and every test on what
    stands at the front says how it starts.

    Reading crashes in three places: at a literal of an unknown kind, at a number
    that is taken apart at its dots, and where a function pointer type loses a
    separator between its parameters.  This file says of which tokens that cannot
    happen (`isReadable`), and packs a sequence of such tokens, all visible, into a
    `Source`: what is left after a part of it was read is a source again, and so is
    the content of a group in it. -/

set_option autoImplicit false

namespace DeclMacros

namespace Token

/-! ## Visible tokens -/

mutual

/-- The visible tokens of a tree: an invisible group stands for its content. -/
def opened : Token → List Token
  | .group .invisible content _ => openedAll content
  | t => [t]

/-- The visible tokens of a sequence. -/
def openedAll : List Token → List Token
  | [] => []
  | t :: ts => t.opened ++ openedAll ts

end

theorem openedAll_cons (t : Token) (ts : List Token) :
    openedAll (t :: ts) = t.opened ++ openedAll ts := rfl

theorem openedAll_append (ts us : List Token) :
    openedAll (ts ++ us) = openedAll ts ++ openedAll us := by
  induction ts with
  | nil => rfl
  | cons t ts ih => rw [List.cons_append, openedAll_cons, openedAll_cons, ih, List.append_assoc]

mutual

theorem openedAll_exposed : ∀ t : Token, openedAll t.exposed = t.opened
  | .ident _ => rfl
  | .punct .. => rfl
  | .literal .. => rfl
  | .group .parenthesis .. => rfl
  | .group .bracket .. => rfl
  | .group .brace .. => rfl
  | .group .invisible content _ => openedAll_exposedFront content

/-- The visible tokens stay the same when the groups at the front are opened. -/
theorem openedAll_exposedFront : ∀ ts : List Token, openedAll (exposedFront ts) = openedAll ts
  | [] => rfl
  | t :: ts => by
      have ht := openedAll_exposed t
      rw [openedAll_cons, ← ht, exposedFront]
      cases hfront : t.exposed with
      | nil => exact openedAll_exposedFront ts
      | cons first more => exact openedAll_append (first :: more) ts

end

/-- The token is not an invisible group. -/
def isVisible : Token → Bool
  | .group .invisible .. => false
  | _ => true

theorem opened_of_isVisible {t : Token} (h : t.isVisible = true) : t.opened = [t] := by
  cases t with
  | group d content span => cases d <;> first | rfl | cases h
  | _ => rfl

theorem openedAll_of_isVisible {ts : List Token} (h : ∀ t ∈ ts, t.isVisible = true) :
    openedAll ts = ts := by
  induction ts with
  | nil => rfl
  | cons t ts ih =>
      obtain ⟨ht, hts⟩ := List.forall_mem_cons.mp h
      rw [openedAll_cons, opened_of_isVisible ht, ih hts, List.singleton_append]

mutual

theorem isVisible_of_exposed : ∀ (t : Token) {first : Token} {more : List Token},
    t.exposed = first :: more → first.isVisible = true
  | .ident _, _, _, h => by rw [← (List.cons.inj h).1]; rfl
  | .punct .., _, _, h => by rw [← (List.cons.inj h).1]; rfl
  | .literal .., _, _, h => by rw [← (List.cons.inj h).1]; rfl
  | .group .parenthesis .., _, _, h => by rw [← (List.cons.inj h).1]; rfl
  | .group .bracket .., _, _, h => by rw [← (List.cons.inj h).1]; rfl
  | .group .brace .., _, _, h => by rw [← (List.cons.inj h).1]; rfl
  | .group .invisible content _, _, _, h => isVisible_of_exposedFront content h

/-- What stands at the opened front is visible. -/
theorem isVisible_of_exposedFront : ∀ (ts : List Token) {first : Token} {more : List Token},
    exposedFront ts = first :: more → first.isVisible = true
  | [], _, _, h => absurd h.symm (List.cons_ne_nil _ _)
  | t :: ts, first, more, h => by
      rw [exposedFront] at h
      cases hfront : t.exposed with
      | nil => rw [hfront] at h; exact isVisible_of_exposedFront ts h
      | cons first' more' =>
          rw [hfront] at h
          rw [← (List.cons.inj h).1]
          exact isVisible_of_exposed t hfront

end

/-- The visible tokens start with the token at the opened front. -/
theorem openedAll_of_exposedFront {ts more : List Token} {first : Token}
    (h : exposedFront ts = first :: more) : openedAll ts = first :: openedAll more := by
  rw [← openedAll_exposedFront, h, openedAll_cons,
    opened_of_isVisible (isVisible_of_exposedFront ts h)]
  rfl

end Token

/-! ## What stands at the front -/

namespace Front

open Token (openedAll openedAll_of_exposedFront)

variable {ts rest content : List Token} {span : Span}

theorem openedAll_ident? {i : Ident} (h : ident? ts = some (i, rest)) :
    openedAll ts = .ident i :: openedAll rest := by
  unfold ident? at h
  split at h
  · next j more hfront =>
      cases h
      exact openedAll_of_exposedFront hfront
  · cases h

theorem openedAll_punct? {c : Char} {s : Spacing} (h : punct? ts = some (c, s, span, rest)) :
    openedAll ts = .punct c s span :: openedAll rest := by
  unfold punct? at h
  split at h
  · next d s' span' more hfront =>
      split at h
      · cases h
      · cases h
        exact openedAll_of_exposedFront hfront
  · cases h

theorem openedAll_literal? {text : String} (h : literal? ts = some (text, span, rest)) :
    openedAll ts = .literal text span :: openedAll rest := by
  unfold literal? at h
  split at h
  · next text' span' more hfront =>
      cases h
      exact openedAll_of_exposedFront hfront
  · cases h

theorem openedAll_group? {d : Delimiter} (h : group? d ts = some (content, span, rest)) :
    openedAll ts = .group d content span :: openedAll rest := by
  unfold group? at h
  split at h
  · next d' content' span' more hfront =>
      split at h
      · next hd =>
          cases h
          rw [← hd]
          exact openedAll_of_exposedFront hfront
      · cases h
  · cases h

theorem openedAll_invisible? (h : invisible? ts = some (content, span, rest)) :
    openedAll ts = openedAll content ++ openedAll rest := by
  unfold invisible? at h
  split at h
  · cases h
    rfl
  · cases h

theorem openedAll_lifetime? {i : Ident} (h : lifetime? ts = some (span, i, rest)) :
    openedAll ts = .punct '\'' .joint span :: .ident i :: openedAll rest := by
  unfold lifetime? at h
  split at h
  · next span' more hfront =>
      split at h
      · next name tail hname =>
          cases h
          rw [openedAll_of_exposedFront hfront, openedAll_ident? hname]
      · cases h
  · cases h

/-- An operator is read from the front. -/
theorem suffix_operator? {cs : List Char} {found : List (Char × Span)}
    (h : operator? cs ts = some (found, rest)) : openedAll rest <:+ openedAll ts := by
  induction cs generalizing ts found with
  | nil => cases h
  | cons c cs ih =>
      rw [operator?] at h
      cases hpunct : punct? ts with
      | none => rw [hpunct] at h; cases h
      | some front =>
          obtain ⟨d, spacing, span, after⟩ := front
          have hstep : openedAll after <:+ openedAll ts := by
            rw [openedAll_punct? hpunct]
            exact List.suffix_cons _ _
          rw [hpunct] at h
          dsimp only at h
          by_cases hchar : d ≠ c
          · rw [if_pos hchar] at h
            cases h
          · rw [if_neg hchar] at h
            by_cases hlast : cs.isEmpty = true
            · rw [if_pos hlast] at h
              cases h
              exact hstep
            · rw [if_neg hlast] at h
              by_cases hjoint : spacing = .joint
              · rw [if_pos hjoint] at h
                obtain ⟨⟨more, tail⟩, hmore, heq⟩ := Option.map_eq_some_iff.mp h
                cases heq
                exact (ih hmore).trans hstep
              · rw [if_neg hjoint] at h
                cases h

/-- An operator of one character is that character. -/
theorem openedAll_operator?_singleton {c : Char} {found : List (Char × Span)}
    (h : operator? [c] ts = some (found, rest)) :
    ∃ s sp, openedAll ts = .punct c s sp :: openedAll rest := by
  rw [operator?] at h
  cases hpunct : punct? ts with
  | none => rw [hpunct] at h; cases h
  | some front =>
      obtain ⟨d, spacing, span, after⟩ := front
      rw [hpunct] at h
      dsimp only at h
      by_cases hchar : d ≠ c
      · rw [if_pos hchar] at h
        cases h
      · rw [if_neg hchar, if_pos List.isEmpty_nil] at h
        cases h
        rw [← not_not.mp hchar]
        exact ⟨spacing, span, openedAll_punct? hpunct⟩

end Front

/-! ## Readable tokens -/

/-- The text of the name has the form of an identifier. -/
def Ident.hasForm (i : Ident) : Bool := Text.isIdentText i.text.toList

/-- Quotes, brackets and the slash that comments start with. -/
def Lexeme.isDelimiting (c : Char) : Bool :=
  ['"', '\'', '(', ')', '[', ']', '\x7b', '\x7d', '/'].contains c

namespace Literal

/-- A literal that starts like a number has nothing in it that delimits. -/
def isLexed (text : String) : Bool :=
  !text.toList.head?.any Lexeme.isDigit || text.toList.all fun c => !Lexeme.isDelimiting c

/-- The kind of the literal is known. -/
def isKnown (text : String) : Bool := ofText text ≠ .unknown

/-- The literal can be read. -/
def isReadable (text : String) : Bool := isLexed text && isKnown text

end Literal

namespace Token

/-- The token is a comma. -/
def isComma : Token → Bool
  | .punct ',' _ _ => true
  | _ => false

/-- The sequence starts with `mut self` and has two commas after it. -/
def startsLoss : List Token → Bool
  | .ident i :: .ident j :: rest => i.is "mut" && j.is "self" && 2 ≤ rest.countP isComma
  | _ => false

/-- Parameters of a function pointer type that lose a separator: from a `mut self` on
    commas are not recorded, and at the second one a parameter is left without. -/
def losesSeparator (ts : List Token) : Bool := ts.tails.any startsLoss

/-- The sequence starts with a function pointer type that loses a separator. -/
def startsBrokenPointer : List Token → Bool
  | .ident i :: .group .parenthesis content _ :: _ =>
    i.is "fn" && losesSeparator (openedAll content)
  | _ => false

/-- No function pointer type in the sequence loses a separator. -/
def keepsSeparators (ts : List Token) : Bool := ts.tails.all fun tail => !startsBrokenPointer tail

mutual

/-- The token is one that a text can have: names have the form of identifiers, and
    numbers that of numbers. -/
def isLexed : Token → Bool
  | .ident i => i.hasForm
  | .punct .. => true
  | .literal text _ => Literal.isLexed text
  | .group _ content _ => areLexed content

/-- The tokens are such as a text can have. -/
def areLexed : List Token → Bool
  | [] => true
  | t :: ts => t.isLexed && areLexed ts

end

mutual

/-- In the token no literal is of an unknown kind, and no function pointer type loses a
    separator. -/
def isTrapFree : Token → Bool
  | .ident _ => true
  | .punct .. => true
  | .literal text _ => Literal.isKnown text
  | .group d content _ =>
    areTrapFree content && (d = .invisible || keepsSeparators (openedAll content))

/-- The tokens have no traps inside them. -/
def areTrapFree : List Token → Bool
  | [] => true
  | t :: ts => t.isTrapFree && areTrapFree ts

end

mutual

/-- The token can be read: it is one that a text can have, without traps. -/
def isReadable : Token → Bool
  | .ident i => i.hasForm
  | .punct .. => true
  | .literal text _ => Literal.isReadable text
  | .group d content _ =>
    areReadable content && (d = .invisible || keepsSeparators (openedAll content))

/-- The tokens can be read one by one. -/
def areReadable : List Token → Bool
  | [] => true
  | t :: ts => t.isReadable && areReadable ts

end

mutual

theorem isReadable_eq : ∀ t : Token, t.isReadable = (t.isLexed && t.isTrapFree)
  | .ident _ => (Bool.and_true _).symm
  | .punct .. => rfl
  | .literal .. => rfl
  | .group d content _ => by
      rw [isReadable, isLexed, isTrapFree, areReadable_eq content, Bool.and_assoc]

/-- To be readable is to be such as a text can have, and free of traps. -/
theorem areReadable_eq : ∀ ts : List Token, areReadable ts = (areLexed ts && areTrapFree ts)
  | [] => rfl
  | t :: ts => by
      rw [areReadable, areLexed, areTrapFree, isReadable_eq t, areReadable_eq ts]
      ac_rfl

end

mutual

theorem isReadable_iff_opened : ∀ t : Token,
    t.isReadable = true ↔ ∀ u ∈ t.opened, u.isReadable = true
  | .ident _ => by simp [opened]
  | .punct .. => by simp [opened]
  | .literal .. => by simp [opened]
  | .group .parenthesis .. => by simp [opened]
  | .group .bracket .. => by simp [opened]
  | .group .brace .. => by simp [opened]
  | .group .invisible content _ => by
      rw [opened, ← areReadable_iff_openedAll content, isReadable]
      simp

/-- Tokens can be read one by one exactly when the visible ones can. -/
theorem areReadable_iff_openedAll : ∀ ts : List Token,
    areReadable ts = true ↔ ∀ u ∈ openedAll ts, u.isReadable = true
  | [] => by simp [areReadable, openedAll]
  | t :: ts => by
      rw [areReadable, Bool.and_eq_true, isReadable_iff_opened t, areReadable_iff_openedAll ts,
        openedAll_cons]
      simp only [List.mem_append, or_imp, forall_and]

end

/-- A part of a sequence that keeps its separators keeps them. -/
theorem keepsSeparators_of_infix {ts us : List Token} (h : us <:+: ts)
    (hts : keepsSeparators ts = true) : keepsSeparators us = true := by
  obtain ⟨before, after, rfl⟩ := h
  refine List.all_eq_true.mpr ?_
  intro tail htail
  rw [List.mem_tails] at htail
  obtain ⟨front, rfl⟩ := htail
  have hmem : tail ++ after ∈ (before ++ (front ++ tail) ++ after).tails := by
    rw [List.mem_tails]
    exact ⟨before ++ front, by simp⟩
  have hwhole := List.all_eq_true.mp hts _ hmem
  -- what stands at the start of the part stands there in the whole
  rw [Bool.not_eq_true'] at hwhole ⊢
  by_contra hbroken
  rw [Bool.not_eq_false] at hbroken
  unfold startsBrokenPointer at hbroken
  split at hbroken
  · rw [List.cons_append, List.cons_append, startsBrokenPointer, hbroken] at hwhole
    cases hwhole
  · cases hbroken

/-- Without groups there are no function pointer types. -/
theorem keepsSeparators_of_no_group {ts : List Token}
    (h : ∀ t ∈ ts, ∀ d content span, t ≠ .group d content span) : keepsSeparators ts = true := by
  refine List.all_eq_true.mpr ?_
  intro tail htail
  rw [List.mem_tails] at htail
  unfold startsBrokenPointer
  split
  · next i content span rest =>
      exact absurd rfl (h (.group .parenthesis content span) (htail.subset (by simp)) _ _ _)
  · rfl

end Token

namespace Tokens

/-- In the sequence no literal is of an unknown kind, and no function pointer type loses
    a separator. -/
def isTrapFree (ts : Tokens) : Bool :=
  Token.areTrapFree ts && Token.keepsSeparators (Token.openedAll ts)

/-- The sequence can be read. -/
def isReadable (ts : Tokens) : Bool :=
  Token.areReadable ts && Token.keepsSeparators (Token.openedAll ts)

theorem isReadable_eq (ts : Tokens) : ts.isReadable = (Token.areLexed ts && ts.isTrapFree) := by
  rw [isReadable, isTrapFree, Token.areReadable_eq, Bool.and_assoc]

/-- What has the form of tokens and no traps can be read. -/
theorem isReadable_of_isTrapFree {ts : Tokens} (hlexed : Token.areLexed ts = true)
    (htraps : ts.isTrapFree = true) : ts.isReadable = true := by
  rw [isReadable_eq, hlexed, htraps]
  rfl

end Tokens

/-! ## Sources -/

/-- A sequence of visible tokens that can be read. -/
structure Source where
  tokens : List Token
  readable : ∀ t ∈ tokens, t.isReadable = true
  separators : Token.keepsSeparators tokens = true

namespace Source

open Token (openedAll)

/-- A part of a source is a source. -/
def part (L : Source) {ts : List Token} (h : ts <:+: L.tokens) : Source where
  tokens := ts
  readable t ht := L.readable t (h.subset ht)
  separators := Token.keepsSeparators_of_infix h L.separators

/-- A sequence that can be read makes a source. -/
def ofTokens (ts : Tokens) (h : ts.isReadable = true) : Source where
  tokens := openedAll ts
  readable := (Token.areReadable_iff_openedAll ts).mp (Bool.and_eq_true_iff.mp h).1
  separators := (Bool.and_eq_true_iff.mp h).2

/-- A name in a source has the form of an identifier. -/
theorem hasForm (L : Source) {i : Ident} (h : Token.ident i ∈ L.tokens) : i.hasForm = true :=
  L.readable _ h

/-- A literal in a source is readable. -/
theorem isReadable_literal (L : Source) {text : String} {span : Span}
    (h : Token.literal text span ∈ L.tokens) : Literal.isReadable text = true := by
  simpa [Token.isReadable] using L.readable _ h

/-- The content of a group in a source can be read. -/
theorem isReadable_content (L : Source) {d : Delimiter} {content : List Token} {span : Span}
    (h : Token.group d content span ∈ L.tokens) (hd : d ≠ .invisible) :
    Tokens.isReadable content = true := by
  have hgroup := L.readable _ h
  rw [Token.isReadable, Bool.and_eq_true] at hgroup
  rw [Tokens.isReadable, Bool.and_eq_true]
  simpa [hd] using hgroup

/-- Tokens whose visible ones are a part of a source can be read. -/
theorem isReadable_of_infix (L : Source) {ts : Tokens} (h : openedAll ts <:+: L.tokens) :
    ts.isReadable = true := by
  rw [Tokens.isReadable, Bool.and_eq_true, Token.areReadable_iff_openedAll]
  exact ⟨(L.part h).readable, (L.part h).separators⟩

end Source

end DeclMacros
