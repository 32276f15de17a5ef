import DeclMacros.Proofs.Crashes
import DeclMacros.Proofs.Operands

/-! # An escaped name is read back

    The name of a generated thing is escaped where its text is a keyword: it is written
    raw or, if it cannot be raw, with an underscore behind it.  This file shows that every
    text with the form of an identifier can be escaped, that what is printed is read back
    as that one name, and that different names stay different.

    The route: an identifier that is printed, raw or not, starts with a letter or an
    underscore and has no quotes in it, so every recogniser before that for words passes
    it by (`leaf?_of_word?`) and the whole text is one identifier (`lex?_display`).  Alone it
    is read as a name exactly if it is not reserved (`readName_ident`).  So a text reads as
    a name exactly if it is no keyword (`readsAsName_iff`), and a keyword that is written
    raw is none any more (`isName_of_raw`). -/

set_option autoImplicit false

namespace DeclMacros

namespace Lexeme

open DeclMacros.Text

/-! ## What cannot start an identifier -/

/-- The code points of the digits, of the blanks and of the byte order mark. -/
def foreignCodes : List Nat :=
  List.range' 0x30 10 ++ List.range' 0x9 5 ++ [0x20, 0x85, 0xa0, 0x1680] ++ List.range' 0x2000 11
    ++ [0x200e, 0x200f, 0x2028, 0x2029, 0x202f, 0x205f, 0x3000, 0xfeff]

theorem isIdentStart_of_foreign :
    foreignCodes.all (fun n => !isIdentStart (Char.ofNat n)) = true := by
  decide +kernel

theorem toNat_mem_of_isBlank {c : Char} (h : isBlank c = true) : c.toNat ∈ foreignCodes := by
  simp only [isBlank, Bool.or_eq_true, Bool.and_eq_true, decide_eq_true_eq] at h
  simp only [foreignCodes, List.mem_append, List.mem_range'_1, List.mem_cons, List.not_mem_nil,
    or_false]
  omega

theorem toNat_mem_of_isDigit {c : Char} (h : isDigit c = true) : c.toNat ∈ foreignCodes := by
  have hbounds : 48 ≤ c.toNat ∧ c.toNat ≤ 57 := (Text.isDigit_iff c).mp h
  simp only [foreignCodes, List.mem_append, List.mem_range'_1, List.mem_cons, List.not_mem_nil,
    or_false]
  omega

section Start

variable {c : Char} (h : isIdentStart c = true)

include h

/-- What starts an identifier is none of them. -/
theorem toNat_not_mem_of_isIdentStart : c.toNat ∉ foreignCodes := by
  intro hmem
  have hnot := List.all_eq_true.mp isIdentStart_of_foreign c.toNat hmem
  rw [Char.ofNat_toNat, h] at hnot
  cases hnot

theorem isBlank_of_isIdentStart : isBlank c = false := by
  by_contra hblank
  rw [Bool.not_eq_false] at hblank
  exact toNat_not_mem_of_isIdentStart h (toNat_mem_of_isBlank hblank)

theorem punctuation?_of_isIdentStart (cs : List Char) : punctuation? (c :: cs) = none := by
  have hnone : punctuation.all (fun d => !isIdentStart d) = true := by decide
  have hnot : ¬ punctuation.contains c = true := by
    intro hmem
    have hfalse := List.all_eq_true.mp hnone c (List.contains_iff_mem.mp hmem)
    rw [h] at hfalse
    cases hfalse
  rw [punctuation?, if_neg hnot, ite_self]

theorem number?_of_isIdentStart (cs : List Char) : number? (c :: cs) = none := by
  cases hnumber : number? (c :: cs) with
  | none => rfl
  | some rest =>
      obtain ⟨d, tail, heq, hdigit, -⟩ := takes_number? hnumber
      rw [← (List.cons.inj heq).1] at hdigit
      exact absurd (toNat_mem_of_isDigit hdigit) (toNat_not_mem_of_isIdentStart h)

end Start

/-! ## Words -/

/-- A text with the form of an identifier is one, to its end. -/
theorem identifier?_of_isIdentText {cs : List Char} (hform : isIdentText cs = true) :
    identifier? cs = some (cs, []) := by
  cases cs with
  | nil => cases hform
  | cons c cs =>
      obtain ⟨hstart, hrest⟩ := Bool.and_eq_true_iff.mp hform
      have hall := List.all_eq_true.mp hrest
      rw [identifier?, if_pos hstart, List.takeWhile_eq_self_iff.mpr hall,
        List.dropWhile_eq_nil_iff.mpr hall]

/-- No quoted literal starts where all characters can continue an identifier. -/
theorem quotedStarts_of_isIdentText {cs : List Char} (hform : isIdentText cs = true) :
    quotedStarts.any (startsWith · cs) = false := by
  have hforeign : ∀ start ∈ quotedStarts, start.toList.any (fun c => !isXidContinue c) = true := by
    decide
  refine List.any_eq_false.mpr ?_
  intro start hstart
  obtain ⟨c, hc, hnot⟩ := List.any_eq_true.mp (hforeign start hstart)
  have habsent : c ∉ cs := by
    intro hmem
    rw [all_isXidContinue hform c hmem] at hnot
    cases hnot
  rw [startsWith_eq_false_of_not_mem habsent hc]
  exact Bool.false_ne_true

/-- A text with the form of an identifier is a word. -/
theorem word?_of_isIdentText {cs : List Char} (hform : isIdentText cs = true) :
    word? cs = some (false, cs, []) := by
  have hhash : '#' ∉ cs := by
    intro hmem
    rw [isIdentText_of_mem_hash hmem] at hform
    cases hform
  rw [word?, quotedStarts_of_isIdentText hform, if_neg Bool.false_ne_true, anyIdentifier?,
    after?_eq_none_of_not_mem hhash (by decide), identifier?_of_isIdentText hform]
  rfl

/-- So it is after the raw mark, unless the name cannot be raw. -/
theorem word?_of_raw {cs : List Char} (hform : isIdentText cs = true)
    (hraw : String.ofList cs ∉ unrawable) :
    word? ('r' :: '#' :: cs) = some (true, cs, []) := by
  have hquoted : quotedStarts.any (startsWith · ('r' :: '#' :: cs)) = false := by
    cases cs with
    | nil => cases hform
    | cons c cs =>
        have hc := all_isXidContinue hform c (List.mem_cons_self ..)
        have hquote : '"' ≠ c := by
          rintro rfl
          exact absurd hc (by decide)
        have hhash : '#' ≠ c := by
          rintro rfl
          exact absurd hc (by decide)
        simp [quotedStarts, startsWith, List.isPrefixOf_cons_cons, hquote, hhash]
  have hafter : after? "r#" ('r' :: '#' :: cs) = some cs := by
    simp [after?]
  have hcontains : ¬ unrawable.contains (String.ofList cs) = true := by
    intro hmem
    exact hraw (List.contains_iff_mem.mp hmem)
  rw [word?, hquoted, if_neg Bool.false_ne_true, anyIdentifier?, hafter]
  dsimp only
  rw [identifier?_of_isIdentText hform]
  dsimp only
  rw [if_neg hcontains]

end Lexeme

/-! ## Identifiers that can be written -/

namespace Ident

open DeclMacros.Text

/-- The identifier can be written in a text: it has the form of one, and its name can be
    raw if it is. -/
def IsWritable (i : Ident) : Prop :=
  i.hasForm = true ∧ (i.raw = true → i.text ∉ Lexeme.unrawable)

/-- The identifier as it is found in a text that holds nothing else. -/
def alone (i : Ident) : Ident := { i with span := .source 0 i.display.length }

variable {i : Ident}

theorem toList_display (i : Ident) :
    i.display.toList = if i.raw then 'r' :: '#' :: i.text.toList else i.text.toList := by
  cases hraw : i.raw with
  | false => rw [display_of_plain hraw]; rfl
  | true => rw [display, hraw, if_pos rfl, if_pos rfl, String.toList_append]; rfl

/-- What is printed starts like an identifier and has nothing in it that delimits. -/
theorem exists_display_eq_cons (h : i.IsWritable) :
    ∃ c cs, i.display.toList = c :: cs ∧ isIdentStart c = true
      ∧ ∀ d ∈ c :: cs, Lexeme.isDelimiting d = false := by
  have htext : ∀ d ∈ i.text.toList, Lexeme.isDelimiting d = false := by
    intro d hd
    exact Lexeme.isDelimiting_of_isXidContinue (all_isXidContinue h.1 d hd)
  rw [toList_display]
  cases i.raw with
  | true =>
      refine ⟨'r', '#' :: i.text.toList, rfl, by decide, ?_⟩
      exact List.forall_mem_cons.mpr ⟨by decide, List.forall_mem_cons.mpr ⟨by decide, htext⟩⟩
  | false =>
      have hform := h.1
      rw [hasForm] at hform
      cases hlist : i.text.toList with
      | nil =>
          rw [hlist] at hform
          cases hform
      | cons c cs =>
          rw [hlist] at hform htext
          exact ⟨c, cs, rfl, (Bool.and_eq_true_iff.mp hform).1, htext⟩

/-- What is printed is a word. -/
theorem word?_display (h : i.IsWritable) :
    Lexeme.word? i.display.toList = some (i.raw, i.text.toList, []) := by
  have hform : isIdentText i.text.toList = true := h.1
  rw [toList_display]
  cases hraw : i.raw with
  | false => exact Lexeme.word?_of_isIdentText hform
  | true =>
      refine Lexeme.word?_of_raw hform ?_
      rw [String.ofList_toList]
      exact h.2 hraw

end Ident

namespace Lexer

open Lexeme (isDelimiting)

/-! ## Texts of one word -/

/-- A word is read as an identifier: it is neither a literal nor punctuation. -/
theorem leaf?_of_word? {start : Nat} {c : Char} {cs name : List Char} {raw : Bool}
    (hstart : Text.isIdentStart c = true) (hcs : ∀ d ∈ c :: cs, isDelimiting d = false)
    (hword : Lexeme.word? (c :: cs) = some (raw, name, [])) :
    leaf? start (c :: cs)
      = some (.ident ⟨String.ofList name, raw, .source start (start + (c :: cs).length)⟩, []) := by
  have hnot : ∀ d, isDelimiting d = true → d ∉ c :: cs := by
    intro d hd hmem
    rw [hcs d hmem] at hd
    cases hd
  have hliteral : Lexeme.literal? (c :: cs) = none := by
    rw [Lexeme.literal?_of_not_mem (hnot _ (by decide)) (hnot _ (by decide)),
      Lexeme.number?_of_isIdentStart hstart]
  rw [leaf?, hliteral]
  dsimp only
  rw [Lexeme.punctuation?_of_isIdentStart hstart, hword]
  rfl

/-- Nothing is skipped before a word. -/
theorem skipBlanks_of_isIdentStart (n : Nat) {c : Char} {cs : List Char}
    (hstart : Text.isIdentStart c = true) (hcs : ∀ d ∈ c :: cs, isDelimiting d = false) :
    Lexeme.skipBlanks n (c :: cs) = c :: cs := by
  cases n with
  | zero => rfl
  | succ n =>
      have hcomment {start : String} := @startsWith_of_undelimited _ hcs start
      rw [Lexeme.skipBlanks, hcomment (by decide), hcomment (by decide), hcomment (by decide),
        Lexeme.isBlank_of_isIdentStart hstart]
      rfl

theorem opening?_of_undelimited {c : Char} (h : isDelimiting c = false) : opening? c = none := by
  unfold opening?
  split
  case h_4 => rfl
  all_goals cases h

theorem closing?_of_undelimited {c : Char} (h : isDelimiting c = false) : closing? c = none := by
  cases hclose : closing? c with
  | none => rfl
  | some d =>
      rw [isDelimiting_of_closing? hclose] at h
      cases h

/-- A text that is one word to its end has one token. -/
theorem run_of_leaf? {fuel offset : Nat} {c : Char} {cs : List Char} {t : Token}
    (hstart : Text.isIdentStart c = true) (hcs : ∀ d ∈ c :: cs, isDelimiting d = false)
    (hleaf : leaf? offset (c :: cs) = some (t, [])) :
    run (fuel + 2) offset (c :: cs) [] [] = some [t] := by
  have hc := hcs c (List.mem_cons_self ..)
  rw [run, skipBlanks_of_isIdentStart _ hstart hcs]
  dsimp only
  rw [doc?_of_undelimited hcs]
  dsimp only
  rw [opening?_of_undelimited hc, closing?_of_undelimited hc, Nat.sub_self, Nat.add_zero]
  dsimp only
  rw [hleaf]
  rfl

end Lexer

namespace Tokens

open DeclMacros.Text

/-- **An identifier that is printed is read back** from the text, and nothing else is. -/
theorem lex?_display {i : Ident} (h : i.IsWritable) :
    Tokens.lex? i.display = some [.ident i.alone] := by
  obtain ⟨c, cs, hlist, hstart, hcs⟩ := Ident.exists_display_eq_cons h
  have hword := Ident.word?_display h
  rw [hlist] at hword
  have halone : (⟨String.ofList i.text.toList, i.raw, .source 0 (0 + (c :: cs).length)⟩ : Ident)
      = i.alone := by
    rw [String.ofList_toList, ← hlist, String.length_toList, Nat.zero_add]
    rfl
  have hleaf : Lexer.leaf? 0 (c :: cs) = some (.ident i.alone, []) := by
    rw [Lexer.leaf?_of_word? hstart hcs hword, halone]
  -- a byte order mark starts no identifier, so the text is read from its first character
  have hmark : c ≠ '\ufeff' := by
    rintro rfl
    exact Lexeme.toNat_not_mem_of_isIdentStart hstart (by decide)
  rw [Tokens.lex?, hlist]
  split
  · next heq => exact absurd (List.cons.inj heq).1 hmark
  · exact Lexer.run_of_leaf? hstart hcs hleaf

end Tokens

/-! ## Names -/

theorem Front.isName_iff {i : Ident} : Front.isName i = true ↔ i.display ∉ Front.reserved := by
  rw [Front.isName, Bool.not_eq_true', ← Bool.not_eq_true, List.contains_iff_mem]

namespace Tokens

/-- To read a name never crashes. -/
theorem crashless_readName (ts : Tokens) : Crashless ts.readName := by
  intro c
  unfold readName Parser.run Parser.name
  dsimp only
  split
  · next e hfailed =>
      intro heq
      rw [Except.error.inj heq] at hfailed
      split at hfailed
      · split at hfailed <;> cases hfailed
      · cases hfailed
  · split
    · rintro ⟨⟩
    · split <;> rintro ⟨⟩

/-- An identifier on its own is read as a name exactly if it is not reserved. -/
theorem readName_ident {i j : Ident} :
    Tokens.readName [.ident i] = .ok j ↔ Front.isName i = true ∧ j = i := by
  rw [readName, Parser.run_eq_ok_iff]
  by_cases hname : Front.isName i = true
  · rw [Parser.name_of_isName hname]
    constructor
    · rintro ⟨rest, ⟨⟩, -⟩
      exact ⟨hname, rfl⟩
    · rintro ⟨-, rfl⟩
      exact ⟨_, rfl, rfl, rfl⟩
  · have hfails : Parser.name { tokens := [.ident i] }
        = Parser.failPhrase "identifier" { tokens := [.ident i] } := by
      show (if Front.isName i then _ else _) = _
      rw [if_neg hname]
    rw [hfails]
    refine iff_of_false ?_ fun h => hname h.1
    rintro ⟨rest, ⟨⟩, -⟩

end Tokens

namespace Ident

open DeclMacros.Text

variable {text : String} {span : Span} {i : Ident}

/-- A text with the form of an identifier reads as a name exactly if it is no keyword. -/
theorem readsAsName_iff (hform : isIdentText text.toList = true) :
    readsAsName text = true ↔ text ∉ Front.reserved := by
  have hplain : IsWritable { text := text } := ⟨hform, by rintro ⟨⟩⟩
  have hlex : Tokens.lex? text = some [.ident (alone { text := text })] := Tokens.lex?_display hplain
  have hname : Front.isName (alone { text := text }) = true ↔ text ∉ Front.reserved :=
    Front.isName_iff
  rw [← hname, readsAsName, hlex]
  dsimp only
  split
  · next j hread => exact iff_of_true rfl (Tokens.readName_ident.mp hread).1
  · next e hread =>
      refine iff_of_false Bool.false_ne_true ?_
      intro h
      rw [Tokens.readName_ident.mpr ⟨h, rfl⟩] at hread
      cases hread

/-- A raw identifier is never reserved: no keyword has a number sign in it. -/
theorem isName_of_raw (h : i.raw = true) : Front.isName i = true := by
  have hnone : ∀ word ∈ Front.reserved, '#' ∉ word.toList := by decide
  refine Front.isName_iff.mpr ?_
  intro hmem
  exact hnone _ hmem (mem_hash_display h)

/-! ## Escaping -/

/-- An escaped text has the form of an identifier and is none that cannot be raw. -/
theorem escapedText_spec (hform : isIdentText text.toList = true) (hne : text ≠ "_") :
    isIdentText (escapedText text).toList = true ∧ escapedText text ∉ Lexeme.unrawable := by
  have hsuffixed : ∀ t ∈ suffixed, t ++ "_" ∉ Lexeme.unrawable := by decide
  have hunrawable : ∀ t ∈ Lexeme.unrawable, t = "_" ∨ t ∈ suffixed := by decide
  rw [escapedText]
  by_cases hmem : text ∈ suffixed
  · rw [if_pos hmem]
    exact ⟨(readsAsName_suffixed hmem).2.2, hsuffixed text hmem⟩
  · rw [if_neg hmem]
    refine ⟨hform, ?_⟩
    intro hin
    rcases hunrawable text hin with heq | hin
    · exact hne heq
    · exact hmem hin

/-- An escaped identifier can be written in a text. -/
theorem isWritable_of_escaped (h : escaped text span = .ok i) : i.IsWritable := by
  obtain ⟨hform, hne, rfl⟩ := escaped_eq_ok_iff.mp h
  obtain ⟨hform', hraw⟩ := escapedText_spec hform hne
  exact ⟨hform', fun _ => hraw⟩

/-- An escaped identifier is a name: it is raw if its text is a keyword. -/
theorem isName_of_escaped (h : escaped text span = .ok i) : Front.isName i = true := by
  have hform : isIdentText i.text.toList = true := (isWritable_of_escaped h).1
  have hkind := (text_of_escaped h).2
  cases hraw : i.raw with
  | true => exact isName_of_raw hraw
  | false =>
      have hreads : readsAsName i.text = true := by
        rwa [hraw, eq_comm, Bool.not_eq_false'] at hkind
      rw [Front.isName_iff, display_of_plain hraw]
      exact (readsAsName_iff hform).mp hreads

/-- An escaped identifier is raw exactly if the text is a keyword that can be. -/
theorem raw_of_escaped (h : escaped text span = .ok i) :
    i.raw = true ↔ text ∈ Front.reserved ∧ text ∉ suffixed := by
  obtain ⟨hform, -, rfl⟩ := escaped_eq_ok_iff.mp h
  show (!readsAsName (escapedText text)) = true ↔ _
  rw [escapedText]
  by_cases hmem : text ∈ suffixed
  · rw [if_pos hmem, (readsAsName_suffixed hmem).2.1]
    exact iff_of_false (by decide) fun hand => hand.2 hmem
  · rw [if_neg hmem, Bool.not_eq_true', ← Bool.not_eq_true, readsAsName_iff hform, not_not]
    exact (and_iff_left hmem).symm

theorem getLast?_append_underscore (text : String) :
    (text ++ "_").toList.getLast? = some '_' := by
  rw [String.toList_append]
  exact List.getLast?_concat

/-- Texts that do not end in an underscore stay apart when they are escaped. -/
theorem escapedText_inj {other : String} (htext : text.toList.getLast? ≠ some '_')
    (hother : other.toList.getLast? ≠ some '_') (h : escapedText text = escapedText other) :
    text = other := by
  unfold escapedText at h
  split at h
  · split at h
    · exact (String.append_left_inj "_").mp h
    · rw [← h] at hother
      exact absurd (getLast?_append_underscore text) hother
  · split at h
    · rw [h] at htext
      exact absurd (getLast?_append_underscore other) htext
    · exact h

/-- **Escaping is total and keeps names apart.**  Take a text with the form of an identifier
    that is not the underscore.  Neither the look whether it is a name nor the making of the
    identifier crashes.  What is printed is lexed to the identifier and nothing else, and is
    read as a name, so it is no keyword.  Its text is the one it is made from, with an
    underscore behind `crate`, `self`, `super` and `Self`, and it is raw exactly for the other
    keywords.  No other text gives the same, with or without the raw mark, unless one of
    the two ends in an underscore. -/
theorem escaped_reads_back_apart (hform : isIdentText text.toList = true) (hne : text ≠ "_")
    (span : Span) :
    (∀ ts, Tokens.lex? text = some ts → Crashless ts.readName)
      ∧ ∃ i, escaped text span = .ok i
        ∧ Tokens.lex? i.display = some [.ident i.alone]
        ∧ Tokens.readName [.ident i.alone] = .ok i.alone
        ∧ i.display ∉ Front.reserved
        ∧ i.text = (if text ∈ ["crate", "self", "super", "Self"] then text ++ "_" else text)
        ∧ (i.raw = true ↔ text ∈ Front.reserved ∧ text ∉ ["crate", "self", "super", "Self"])
        ∧ ∀ other place j, escaped other place = .ok j → text.toList.getLast? ≠ some '_' →
            other.toList.getLast? ≠ some '_' → i.text = j.text → text = other := by
  refine ⟨fun ts _ => ts.crashless_readName, ?_⟩
  obtain ⟨i, hi⟩ := exists_escaped_iff.mpr ⟨hform, hne⟩
  have hname := isName_of_escaped hi
  refine ⟨i, hi, Tokens.lex?_display (isWritable_of_escaped hi),
    Tokens.readName_ident.mpr ⟨hname, rfl⟩, Front.isName_iff.mp hname, (text_of_escaped hi).1,
    raw_of_escaped hi, ?_⟩
  intro other place j hj htext hother heq
  rw [(text_of_escaped hi).1, (text_of_escaped hj).1] at heq
  exact escapedText_inj htext hother heq

end Ident

namespace Sample

/-- `match` is written raw and `super` with an underscore; both are read back, and they do not
    become one. -/
theorem super_match_read_back_apart :
    ∃ i j, Ident.escaped "super" = .ok i ∧ Ident.escaped "match" = .ok j
      ∧ i.text = "super_" ∧ i.raw = false ∧ j.text = "match" ∧ j.raw = true
      ∧ Tokens.lex? i.display = some [.ident i.alone]
      ∧ Tokens.lex? j.display = some [.ident j.alone] ∧ i.text ≠ j.text := by
  obtain ⟨-, i, hi, hlex, -, -, htext, hraw, hapart⟩ :=
    @Ident.escaped_reads_back_apart "super" (by decide) (by decide) .callSite
  obtain ⟨-, j, hj, hlex', -, -, htext', hraw', -⟩ :=
    @Ident.escaped_reads_back_apart "match" (by decide) (by decide) .callSite
  refine ⟨i, j, hi, hj, htext, ?_, htext', hraw'.mpr (by decide), hlex, hlex', ?_⟩
  · rw [← Bool.not_eq_true, hraw]
    decide
  · intro heq
    exact absurd (hapart "match" .callSite j hj (by decide) (by decide) heq) (by decide)

end Sample

end DeclMacros
