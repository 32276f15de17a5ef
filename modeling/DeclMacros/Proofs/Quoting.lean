import DeclMacros.Text.Quoted
import DeclMacros.Token.Literal

/-! # A quoted text denotes the text

    Generated code carries texts as string literals.  This file shows that the literal
    made from a text denotes that text, whatever is in it (`ofText_literalQuoted`).

    The route: the digits of a code point are read back to it (`codePoint?_toDigits`), so
    each way to write a character is read as that character (`unescape_escapeChar`); a
    NUL before an octal digit is the one character that is written by what follows it. -/

set_option autoImplicit false

namespace DeclMacros

namespace Lexeme

/-! ## Code points -/

theorem hexDigit?_digitChar {d : Nat} (h : d < 16) : hexDigit? d.digitChar = some d := by
  have hall : ∀ d < 16, hexDigit? (Nat.digitChar d) = some d := by decide
  exact hall d h

/-- The digits of a number are read back to it, if there are not more than six. -/
theorem codePointDigits?_toDigits (n : Nat) (hn : (Nat.toDigits 16 n).length ≤ 6)
    (rest : List Char) :
    codePointDigits? 0 0 (Nat.toDigits 16 n ++ rest)
      = codePointDigits? n (Nat.toDigits 16 n).length rest := by
  induction n using Nat.strongRecOn generalizing rest with
  | _ n ih =>
      by_cases hlast : n < 16
      · rw [Nat.toDigits_of_lt_base hlast, List.singleton_append, codePointDigits?,
          hexDigit?_digitChar hlast]
        simp
      · have hsplit := Nat.toDigits_of_base_le (b := 16) (n := n) (by decide) (by omega)
        rw [hsplit, List.length_append, List.length_singleton] at hn
        rw [hsplit, List.append_assoc, ih (n / 16) (by omega) (by omega), List.singleton_append,
          codePointDigits?, hexDigit?_digitChar (Nat.mod_lt n (by decide)), List.length_append]
        dsimp only
        rw [if_neg (by omega), Nat.div_add_mod' n 16]
        rfl

/-- A character has the code point of one. -/
theorem toNat_cases (c : Char) : c.toNat < 0xd800 ∨ 0xdfff < c.toNat ∧ c.toNat < 0x110000 :=
  c.valid

theorem isScalar_toNat (c : Char) : isScalar c.toNat = true := by
  rw [isScalar, Bool.or_eq_true, Bool.and_eq_true, decide_eq_true_eq, decide_eq_true_eq,
    decide_eq_true_eq]
  have hcases := toNat_cases c
  omega

/-- The code point of a character is read back. -/
theorem codePoint?_toDigits (c : Char) (rest : List Char) :
    codePoint? ('\x7b' :: (Nat.toDigits 16 c.toNat ++ '\x7d' :: rest)) = some (c.toNat, rest) := by
  have hlength : (Nat.toDigits 16 c.toNat).length ≤ 6 := by
    refine (Nat.length_toDigits_le_iff (by decide) (by decide)).mpr ?_
    have hcases := toNat_cases c
    omega
  have hpos := Nat.length_toDigits_pos (b := 16) (n := c.toNat)
  rw [codePoint?, codePointDigits?_toDigits c.toNat hlength, codePointDigits?,
    show hexDigit? '\x7d' = none from rfl]
  dsimp only
  rw [if_neg (by omega), if_neg (by decide), isScalar_toNat]
  rfl

end Lexeme

namespace Literal

open Text

/-! ## Characters -/

/-- A character that is written by its code point is read back. -/
theorem unescape_unicodeEscape (fuel : Nat) (c : Char) (rest : List Char) :
    unescape (fuel + 1) (unicodeEscape c ++ rest) = c :: unescape fuel rest := by
  have hwritten : unicodeEscape c ++ rest
      = '\\' :: 'u' :: '\x7b' :: (Nat.toDigits 16 c.toNat ++ '\x7d' :: rest) := by
    simp [unicodeEscape]
  rw [hwritten, unescape, if_neg (by decide), if_neg (by decide), if_pos rfl,
    Lexeme.codePoint?_toDigits]
  show Char.ofNat c.toNat :: unescape fuel rest = _
  rw [Char.ofNat_toNat]

/-- A character that means nothing special is read as it is. -/
theorem unescape_plain (fuel : Nat) {c : Char} (hquote : c ≠ '"') (hreturn : c ≠ '\r')
    (hbackslash : c ≠ '\\') (rest : List Char) :
    unescape (fuel + 1) (c :: rest) = c :: unescape fuel rest := by
  rw [unescape.eq_def]
  dsimp only
  rw [if_neg hquote, if_neg hreturn, if_neg hbackslash]

/-- Each way to write a character is read as that character. -/
theorem unescape_escapeChar (fuel : Nat) (c : Char) (rest : List Char) :
    unescape (fuel + 1) (escapeChar c ++ rest) = c :: unescape fuel rest := by
  by_cases hnul : c = '\x00'
  · rw [hnul]; rfl
  by_cases htab : c = '\t'
  · rw [htab]; rfl
  by_cases hreturn : c = '\r'
  · rw [hreturn]; rfl
  by_cases hfeed : c = '\n'
  · rw [hfeed]; rfl
  by_cases hbackslash : c = '\\'
  · rw [hbackslash]; rfl
  by_cases hquote : c = '"'
  · rw [hquote]; rfl
  rw [escapeChar, if_neg hnul, if_neg htab, if_neg hreturn, if_neg hfeed, if_neg hbackslash,
    if_neg hquote]
  split
  · exact unescape_unicodeEscape fuel c rest
  · split
    · exact unescape_plain fuel hquote hreturn hbackslash rest
    · exact unescape_unicodeEscape fuel c rest

/-! ## Texts -/

/-- What is written for a character depends on the next one for a NUL only. -/
theorem escapeLiteral_cons (c : Char) (cs : List Char) :
    escapeLiteral (c :: cs) = escapeChar c ++ escapeLiteral cs
      ∨ c = '\x00' ∧ escapeLiteral (c :: cs) = ['\\', 'x', '0', '0'] ++ escapeLiteral cs := by
  rw [escapeLiteral]
  split
  · next hoctal =>
      rw [Bool.and_eq_true, decide_eq_true_eq] at hoctal
      exact .inr ⟨hoctal.1, rfl⟩
  · exact .inl rfl

theorem escapeChar_ne_nil (c : Char) : escapeChar c ≠ [] := by
  intro h
  -- what is written for a character is read as one
  have hread := unescape_escapeChar 0 c []
  rw [h] at hread
  cases hread

/-- A literal is at least as long as its text. -/
theorem length_le_escapeLiteral (cs : List Char) : cs.length ≤ (escapeLiteral cs).length := by
  induction cs with
  | nil => exact Nat.le_refl _
  | cons c cs ih =>
      have hpos := List.length_pos_iff.mpr (escapeChar_ne_nil c)
      rcases escapeLiteral_cons c cs with h | ⟨-, h⟩
      · rw [h, List.length_append, List.length_cons]
        omega
      · rw [h, List.length_append]
        show cs.length + 1 ≤ 4 + _
        omega

/-- The body of a literal is read back up to its closing quote.  Each character costs one
    step, however it is written. -/
theorem unescape_escapeLiteral (cs : List Char) {fuel : Nat} (hfuel : cs.length < fuel) :
    unescape fuel (escapeLiteral cs ++ ['"']) = cs := by
  induction cs generalizing fuel with
  | nil =>
      obtain ⟨fuel, rfl⟩ := Nat.exists_eq_succ_of_ne_zero (Nat.ne_of_gt hfuel)
      rfl
  | cons c cs ih =>
      rw [List.length_cons] at hfuel
      obtain ⟨fuel, rfl⟩ : ∃ n, fuel = n + 1 := ⟨fuel - 1, by omega⟩
      have hrest := @ih fuel (by omega)
      rcases escapeLiteral_cons c cs with h | ⟨rfl, h⟩
      · rw [h, List.append_assoc, unescape_escapeChar, hrest]
      · rw [h]
        show Char.ofNat (hexPair '0' '0') :: unescape fuel (escapeLiteral cs ++ ['"']) = _
        rw [hrest]
        rfl

theorem ofText_of_quote {text : String} {body : List Char} (h : text.toList = '"' :: body) :
    Literal.ofText text = .text (String.ofList (unescape (body.length + 1) body)) := by
  rw [Literal.ofText, h]
  rfl

/-- **A quoted text denotes the text.** -/
theorem ofText_literalQuoted (s : String) : Literal.ofText (literalQuoted s) = .text s := by
  have hquoted : (literalQuoted s).toList = '"' :: (escapeLiteral s.toList ++ ['"']) := by
    rw [literalQuoted, String.toList_ofList, List.cons_append]
  have hlength := length_le_escapeLiteral s.toList
  rw [ofText_of_quote hquoted, unescape_escapeLiteral, String.ofList_toList]
  rw [List.length_append]
  omega

end Literal

end DeclMacros
