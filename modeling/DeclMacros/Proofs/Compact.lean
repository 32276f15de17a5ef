import DeclMacros.Token.Printer

/-! # Where the compact form puts spaces

    The compact form prints a sequence from the first token to the last and into the
    groups, and carries along whether the token before was a word.  Flattened, a
    sequence is a list of pieces: words, marks that are printed, and the seams of
    invisible groups, of which nothing is printed.

    The route: the compact form is the list of pieces printed one after the other, with
    a space wherever two words meet (`compactFrom_eq`, by induction on the trees).  Two
    words meet only if nothing at all is between them, so a seam is enough to take the
    space away (`compact_parts_words`): a word that was substituted as a whole is glued
    to the words around it. -/

set_option autoImplicit false

namespace DeclMacros

/-! ## Pieces -/

/-- A piece of a flattened sequence. -/
inductive Piece where
  /-- An identifier or a literal. -/
  | word (text : String)
  /-- A punctuation character, or a delimiter that is printed. -/
  | mark (text : String)
  /-- The start or the end of an invisible group. -/
  | seam
deriving DecidableEq, Repr

namespace Piece

/-- What is printed of a piece. -/
def text : Piece → String
  | .word text => text
  | .mark text => text
  | .seam => ""

/-- The piece is a word. -/
def isWord : Piece → Bool
  | .word _ => true
  | _ => false

/-- What comes before pieces: a space if they start with a word and stand after one. -/
def lead (afterWord : Bool) (pieces : List Piece) : String :=
  if afterWord && pieces.head?.any isWord then " " else ""

/-- The pieces one after the other, with a space wherever two words meet. -/
def printed : List Piece → String
  | [] => ""
  | p :: rest => p.text ++ lead p.isWord rest ++ printed rest

/-- The last piece is a word. -/
def endInWord (pieces : List Piece) : Bool := pieces.getLast?.any isWord

@[simp] theorem lead_false (pieces : List Piece) : lead false pieces = "" := rfl

@[simp] theorem lead_nil (afterWord : Bool) : lead afterWord [] = "" := by
  cases afterWord <;> rfl

/-- Only the first piece matters to what comes before. -/
theorem lead_append (afterWord : Bool) {xs : List Piece} (h : xs ≠ []) (ys : List Piece) :
    lead afterWord (xs ++ ys) = lead afterWord xs := by
  cases xs with
  | nil => exact absurd rfl h
  | cons p xs => rfl

theorem endInWord_cons_cons (p q : Piece) (rest : List Piece) :
    endInWord (p :: q :: rest) = endInWord (q :: rest) := by
  rw [endInWord, List.getLast?_cons_cons]
  rfl

theorem endInWord_concat (xs : List Piece) (p : Piece) : endInWord (xs ++ [p]) = p.isWord := by
  rw [endInWord, List.getLast?_concat]
  rfl

/-- Pieces are printed part by part, with a space if two words meet between the parts. -/
theorem printed_append (xs ys : List Piece) :
    printed (xs ++ ys) = printed xs ++ lead (endInWord xs) ys ++ printed ys := by
  induction xs with
  | nil => rfl
  | cons p xs ih =>
      show p.text ++ lead p.isWord (xs ++ ys) ++ printed (xs ++ ys) = _
      cases xs with
      | nil => simp [printed, endInWord]
      | cons q xs =>
          rw [ih, endInWord_cons_cons, lead_append p.isWord (List.cons_ne_nil q xs)]
          show _ = p.text ++ lead p.isWord (q :: xs) ++ printed (q :: xs) ++ _ ++ _
          simp only [String.append_assoc]

/-- A piece that is no word needs no space on either side. -/
theorem printed_enclosed {opening closing : Piece} (hopening : opening.isWord = false)
    (hclosing : closing.isWord = false) (content : List Piece) :
    printed (opening :: (content ++ [closing])) = opening.text ++ printed content ++ closing.text := by
  have hlead : lead (endInWord content) [closing] = "" := by
    simp [lead, hclosing]
  rw [printed, printed_append, hopening, hlead]
  simp [printed, String.append_assoc]

/-- Seams print nothing. -/
theorem printed_seams_append {seams : List Piece} (h : ∀ p ∈ seams, p = .seam)
    (rest : List Piece) : printed (seams ++ rest) = printed rest := by
  induction seams with
  | nil => rfl
  | cons p seams ih =>
      obtain ⟨rfl, hseams⟩ := List.forall_mem_cons.mp h
      rw [List.cons_append, printed, ih hseams]
      rfl

/-- After a word, a seam takes the place of the space. -/
theorem lead_seams_append {seams : List Piece} (h : ∀ p ∈ seams, p = .seam) (b : String)
    (rest : List Piece) :
    lead true (seams ++ .word b :: rest) = if seams = [] then " " else "" := by
  cases seams with
  | nil => rfl
  | cons p seams =>
      obtain ⟨rfl, -⟩ := List.forall_mem_cons.mp h
      rw [if_neg (List.cons_ne_nil _ _)]
      rfl

end Piece

/-! ## The pieces of a sequence -/

namespace Delimiter

/-- The piece that a group starts with. -/
def opening : Delimiter → Piece
  | .parenthesis => .mark "("
  | .bracket => .mark "["
  | .brace => .mark "\x7b"
  | .invisible => .seam

/-- The piece that a group ends with. -/
def closing : Delimiter → Piece
  | .parenthesis => .mark ")"
  | .bracket => .mark "]"
  | .brace => .mark "\x7d"
  | .invisible => .seam

@[simp] theorem isWord_opening (d : Delimiter) : d.opening.isWord = false := by
  cases d <;> rfl

@[simp] theorem isWord_closing (d : Delimiter) : d.closing.isWord = false := by
  cases d <;> rfl

end Delimiter

mutual

/-- The pieces of a token.  A comma and a semicolon bring the space after them along. -/
def Token.pieces : Token → List Piece
  | .ident i => [.word i.display]
  | .literal text _ => [.word text]
  | .punct c _ _ =>
    [.mark (if c = ',' || c = ';' then String.ofList [c, ' '] else String.singleton c)]
  | .group d content _ => d.opening :: (Tokens.pieces content ++ [d.closing])

/-- The pieces of a sequence, in the order in which they are printed. -/
def Tokens.pieces : List Token → List Piece
  | [] => []
  | t :: ts => t.pieces ++ Tokens.pieces ts

end

theorem Token.pieces_ne_nil (t : Token) : t.pieces ≠ [] := by
  cases t <;> exact List.cons_ne_nil _ _

/-- A group in compact form is its content between its delimiters. -/
theorem Token.compact_group (afterWord : Bool) (d : Delimiter) (content : List Token)
    (span : Span) :
    (Token.group d content span).compact afterWord
      = d.opening.text ++ Tokens.compactFrom false content ++ d.closing.text := by
  cases d <;> simp [Token.compact, Delimiter.opening, Delimiter.closing, Piece.text]

/-- After a token, the next one stands after a word exactly if the last piece is one. -/
theorem Tokens.compactFrom_cons (afterWord : Bool) (t : Token) (ts : List Token) :
    Tokens.compactFrom afterWord (t :: ts)
      = t.compact afterWord ++ Tokens.compactFrom (Piece.endInWord t.pieces) ts := by
  cases t with
  | group d content span =>
      have hlast : Piece.endInWord (Token.group d content span).pieces = false := by
        rw [Token.pieces, ← List.cons_append, Piece.endInWord_concat, Delimiter.isWord_closing]
      rw [hlast]
      rfl
  | _ => rfl

mutual

/-- A token in compact form is its pieces printed. -/
theorem Token.compact_eq : ∀ (afterWord : Bool) (t : Token),
    t.compact afterWord = Piece.lead afterWord t.pieces ++ Piece.printed t.pieces
  | afterWord, .ident i => by
      cases afterWord <;> simp [Token.compact, Token.pieces, Piece.printed, Piece.lead,
        Piece.text, Piece.isWord]
  | afterWord, .literal text _ => by
      cases afterWord <;> simp [Token.compact, Token.pieces, Piece.printed, Piece.lead,
        Piece.text, Piece.isWord]
  | afterWord, .punct c _ _ => by
      simp [Token.compact, Token.pieces, Piece.printed, Piece.lead, Piece.text, Piece.isWord]
  | afterWord, .group d content span => by
      have hlead : Piece.lead afterWord (Token.group d content span).pieces = "" := by
        simp [Token.pieces, Piece.lead]
      rw [Token.compact_group, Tokens.compactFrom_eq false content, hlead, Token.pieces,
        Piece.printed_enclosed d.isWord_opening d.isWord_closing]
      simp

/-- A sequence in compact form is its pieces printed, with a space before them if they
    start with a word and stand after one. -/
theorem Tokens.compactFrom_eq : ∀ (afterWord : Bool) (ts : List Token),
    Tokens.compactFrom afterWord ts
      = Piece.lead afterWord (Tokens.pieces ts) ++ Piece.printed (Tokens.pieces ts)
  | afterWord, [] => by
      rw [Tokens.pieces, Piece.lead_nil]
      rfl
  | afterWord, t :: ts => by
      rw [Tokens.compactFrom_cons, Token.compact_eq afterWord t, Tokens.compactFrom_eq _ ts,
        Tokens.pieces, Piece.lead_append afterWord t.pieces_ne_nil, Piece.printed_append]
      simp only [String.append_assoc]

end

/-- **Words are parted exactly where nothing is between them.**  Take two words of a sequence
    with no mark printed between them, only seams of invisible groups, if any.  What is
    printed before the first and after the second stays around them, and between them is a
    space if there is no seam, and nothing if there is one. -/
theorem Tokens.compact_parts_words (ts : Tokens) (before seams after : List Piece) (a b : String)
    (hpieces : Tokens.pieces ts = before ++ .word a :: (seams ++ .word b :: after))
    (hseams : ∀ p ∈ seams, p = .seam) :
    ∃ left right, Piece.printed (before ++ [.word a]) = left ++ a
      ∧ Piece.printed (.word b :: after) = b ++ right
      ∧ ts.compact = left ++ a ++ (if seams = [] then " " else "") ++ b ++ right := by
  have hfirst : Piece.printed (before ++ [.word a])
      = Piece.printed before ++ Piece.lead (Piece.endInWord before) [.word a] ++ a := by
    rw [Piece.printed_append]
    simp [Piece.printed, Piece.text]
  have hsecond : Piece.printed (.word b :: after)
      = b ++ (Piece.lead true after ++ Piece.printed after) := by
    rw [Piece.printed, String.append_assoc]
    rfl
  refine ⟨_, _, hfirst, hsecond, ?_⟩
  -- the first word ends one part and the seams start the next
  have hparts : Tokens.pieces ts = (before ++ [.word a]) ++ (seams ++ .word b :: after) := by
    rw [hpieces, List.append_assoc]
    rfl
  calc ts.compact
      = Piece.printed (Tokens.pieces ts) := by
        rw [Tokens.compact, Tokens.compactFrom_eq, Piece.lead_false, String.empty_append]
    _ = Piece.printed (before ++ [.word a]) ++ Piece.lead true (seams ++ .word b :: after)
          ++ Piece.printed (seams ++ .word b :: after) := by
        rw [hparts, Piece.printed_append, Piece.endInWord_concat]
        rfl
    _ = _ := by
        rw [Piece.lead_seams_append hseams, Piece.printed_seams_append hseams, hfirst, hsecond]
        simp only [String.append_assoc]

namespace Sample

/-- `mac!(a b c d e, f; g)`, where `c d` was substituted as a whole. -/
def spliced : Tokens :=
  .word "mac" :: Tokens.op "!" ++ [.parens
    ([.word "a", .word "b", .group .invisible [.word "c", .word "d"] .callSite, .word "e"]
      ++ Tokens.op "," ++ .word "f" :: Tokens.op ";" ++ [.word "g"])]

/-- What is printed before the words of the call. -/
def splicedFront : List Piece := [.word "mac", .mark "!", .mark "("]

/-- The words are parted, also inside the part that was substituted, but not where that part
    starts. -/
theorem spliced_parts_words :
    (∃ left right, spliced.compact = left ++ "a" ++ " " ++ "b" ++ right)
      ∧ (∃ left right, spliced.compact = left ++ "b" ++ "" ++ "c" ++ right)
      ∧ ∃ left right, spliced.compact = left ++ "c" ++ " " ++ "d" ++ right := by
  refine ⟨?_, ?_, ?_⟩
  · obtain ⟨left, right, -, -, h⟩ := spliced.compact_parts_words splicedFront [] _ "a" "b" rfl
      (List.forall_mem_nil _)
    exact ⟨left, right, h⟩
  · obtain ⟨left, right, -, -, h⟩ := spliced.compact_parts_words
      (splicedFront ++ [.word "a"]) [.seam] _ "b" "c" rfl (by simp)
    exact ⟨left, right, h⟩
  · obtain ⟨left, right, -, -, h⟩ := spliced.compact_parts_words
      (splicedFront ++ [.word "a", .word "b", .seam]) [] _ "c" "d" rfl (List.forall_mem_nil _)
    exact ⟨left, right, h⟩

/-- No mark is printed between `b` and `c`, nor between `d` and `e`, and no space is. -/
theorem spliced_glues_words :
    Tokens.pieces spliced = splicedFront ++ [.word "a", .word "b", .seam, .word "c", .word "d",
      .seam, .word "e", .mark ", ", .word "f", .mark "; ", .word "g", .mark ")"]
      ∧ spliced.compact = "mac!(a bc de, f; g)" := by
  decide

end Sample

end DeclMacros
