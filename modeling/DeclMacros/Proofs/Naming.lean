import Mathlib.Data.List.TakeWhile
import DeclMacros.Name
import DeclMacros.Text.SnakeCase

/-! # Which names can be made

    Generated things get names that are put together from texts: a name in snake
    case, a name with something before or behind it, a keyword that is escaped.
    Making an identifier checks the form of the text and stops the expansion if
    it is none, so what can be expanded at all is a question about texts.

    The route: an identifier can be made exactly from a text with the form of one
    (`validate_eq_ok_iff`), and an escaped one exactly from such a text other than
    the underscore (`exists_escaped_iff`).  The name in snake case starts with the
    first letter or number of the name in lower case (`head?_snakeCase`) and holds
    nothing but its letters and numbers and underscores (`mem_snakeCase`), so it
    has the form of an identifier exactly when that first one can start an
    identifier (`isIdentText_snakeCase_iff`). -/

set_option autoImplicit false

namespace DeclMacros

namespace Text

/-! ## Numbers in names -/

/-- A number is read back from its digits. -/
theorem toString_nat_injective {i j : Nat} (h : toString i = toString j) : i = j := by
  have hdigits : Nat.toDigits 10 i = Nat.toDigits 10 j := by
    simpa only [Nat.toString_eq_repr, Nat.toList_repr] using congrArg String.toList h
  simpa using congrArg (fun digits => Nat.ofDigitChars 10 digits 0) hdigits

/-! ## Characters of identifiers -/

/-- What is left of ascending ranges when those that lie within the ranges of a
    second ascending list are passed by. -/
def uncovered (ranges cover : List (Nat × Nat)) : List (Nat × Nat) :=
  cover.foldl (fun left s => left.dropWhile fun r => s.1 ≤ r.1 && r.2 ≤ s.2) ranges

/-- If nothing is left, the second list has all the characters of the first. -/
theorem inRanges_of_uncovered {ranges cover : List (Nat × Nat)}
    (h : (uncovered ranges cover).isEmpty = true) {c : Char} (hc : inRanges ranges c = true) :
    inRanges cover c = true := by
  unfold uncovered at h
  induction cover generalizing ranges with
  | nil =>
      rw [List.foldl_nil, List.isEmpty_iff] at h
      rw [h] at hc
      exact nomatch hc
  | cons s rest ih =>
      rw [List.foldl_cons] at h
      unfold inRanges at hc ⊢
      rw [List.any_cons, Bool.or_eq_true]
      rw [← List.takeWhile_append_dropWhile (p := fun r => s.1 ≤ r.1 && r.2 ≤ s.2) (l := ranges),
        List.any_append, Bool.or_eq_true] at hc
      rcases hc with hwithin | hleft
      · obtain ⟨r, hr, hbounds⟩ := List.any_eq_true.mp hwithin
        have hsub := List.mem_takeWhile_imp hr
        simp only [Bool.and_eq_true, decide_eq_true_eq] at hsub hbounds ⊢
        exact .inl ⟨hsub.1.trans hbounds.1, hbounds.2.trans hsub.2⟩
      · exact .inr (ih h hleft)

/-- What can start an identifier can continue one. -/
theorem isXidContinue_of_isXidStart {c : Char} (h : isXidStart c = true) :
    isXidContinue c = true := by
  unfold isXidStart at h
  unfold isXidContinue
  by_cases hascii : c.toNat < 0x80
  · rw [if_pos hascii] at h ⊢
    simp [Char.isAlphanum, h]
  · rw [if_neg hascii] at h ⊢
    exact inRanges_of_uncovered (by decide +kernel) h

theorem isXidContinue_of_isIdentStart {c : Char} (h : isIdentStart c = true) :
    isXidContinue c = true := by
  unfold isIdentStart at h
  rcases Bool.or_eq_true .. ▸ h with hunderscore | hstart
  · rw [eq_of_beq hunderscore]
    decide
  · exact isXidContinue_of_isXidStart hstart

/-- Lower case moves the capital letters of ASCII and nothing else. -/
theorem toNat_toLower (c : Char) :
    c.toLower.toNat = if 65 ≤ c.toNat ∧ c.toNat ≤ 90 then c.toNat + 32 else c.toNat := by
  have hcapital : (c.val ≥ 'A'.val ∧ c.val ≤ 'Z'.val) ↔ (65 ≤ c.toNat ∧ c.toNat ≤ 90) := Iff.rfl
  unfold Char.toLower
  by_cases h : 65 ≤ c.toNat ∧ c.toNat ≤ 90
  · rw [dif_pos (hcapital.mpr h), if_pos h]
    show (c.val + 32).toNat = c.val.toNat + 32
    rw [UInt32.toNat_add]
    refine Nat.mod_eq_of_lt ?_
    have hsmall : c.val.toNat ≤ 90 := h.2
    show c.val.toNat + 32 < 4294967296
    omega
  · rw [dif_neg fun hc => h (hcapital.mp hc), if_neg h]

theorem isAlpha_iff (c : Char) :
    c.isAlpha = true ↔ (65 ≤ c.toNat ∧ c.toNat ≤ 90) ∨ (97 ≤ c.toNat ∧ c.toNat ≤ 122) := by
  have hupper : c.isUpper = true ↔ 65 ≤ c.toNat ∧ c.toNat ≤ 90 := decide_eq_true_iff
  have hlower : c.isLower = true ↔ 97 ≤ c.toNat ∧ c.toNat ≤ 122 :=
    Bool.and_eq_true_iff.trans (and_congr decide_eq_true_iff decide_eq_true_iff)
  exact Bool.or_eq_true_iff.trans (or_congr hupper hlower)

theorem isDigit_iff (c : Char) : c.isDigit = true ↔ 48 ≤ c.toNat ∧ c.toNat ≤ 57 :=
  Char.isDigit_iff_toNat

/-- A character is moved within the letters of ASCII, or not at all. -/
theorem toLower_cases (c : Char) :
    c.toLower = c ∨ (c.toNat < 0x80 ∧ c.toLower.toNat < 0x80 ∧ c.isAlpha = true
      ∧ c.toLower.isAlpha = true) := by
  have hnat := toNat_toLower c
  by_cases h : 65 ≤ c.toNat ∧ c.toNat ≤ 90
  · rw [if_pos h] at hnat
    refine .inr ⟨by omega, by omega, (isAlpha_iff c).mpr (.inl h), ?_⟩
    exact (isAlpha_iff c.toLower).mpr (.inr (by omega))
  · rw [if_neg h] at hnat
    exact .inl (Char.toNat_inj.mp hnat)

theorem isXidStart_toLower (c : Char) : isXidStart c.toLower = isXidStart c := by
  rcases toLower_cases c with heq | ⟨hascii, hascii', halpha, halpha'⟩
  · rw [heq]
  · rw [isXidStart, isXidStart, if_pos hascii, if_pos hascii', halpha, halpha']

theorem isXidContinue_toLower (c : Char) : isXidContinue c.toLower = isXidContinue c := by
  rcases toLower_cases c with heq | ⟨hascii, hascii', halpha, halpha'⟩
  · rw [heq]
  · rw [isXidContinue, isXidContinue, if_pos hascii, if_pos hascii']
    simp [Char.isAlphanum, halpha, halpha']

/-- The underscore is neither a letter nor a number, in either case. -/
theorem toLower_ne_underscore {c : Char} (h : isAlphanumeric c = true) : c.toLower ≠ '_' := by
  rcases toLower_cases c with heq | ⟨-, -, -, halpha⟩
  · rw [heq]
    rintro rfl
    exact absurd h (by decide)
  · intro heq
    rw [heq] at halpha
    exact absurd halpha (by decide)

/-- A letter or number can start an identifier in lower case if it can at all. -/
theorem isIdentStart_toLower {c : Char} (h : isAlphanumeric c = true) :
    isIdentStart c.toLower = isXidStart c := by
  unfold isIdentStart
  rw [beq_eq_false_iff_ne.mpr (toLower_ne_underscore h), Bool.false_or, isXidStart_toLower]

/-! ## Texts with the form of an identifier -/

/-- All characters of an identifier can continue one. -/
theorem all_isXidContinue {cs : List Char} (h : isIdentText cs = true) :
    ∀ c ∈ cs, isXidContinue c = true := by
  cases cs with
  | nil => exact nomatch h
  | cons first rest =>
      unfold isIdentText at h
      rw [Bool.and_eq_true] at h
      intro c hc
      rcases List.mem_cons.mp hc with rfl | hlater
      · exact isXidContinue_of_isIdentStart h.1
      · exact List.all_eq_true.mp h.2 c hlater

/-- A text stays an identifier when characters are added that can continue one. -/
theorem isIdentText_append {cs ds : List Char} (hcs : isIdentText cs = true)
    (hds : ∀ d ∈ ds, isXidContinue d = true) : isIdentText (cs ++ ds) = true := by
  cases cs with
  | nil => exact nomatch hcs
  | cons first rest =>
      unfold isIdentText at hcs
      rw [Bool.and_eq_true] at hcs
      show (isIdentStart first && (rest ++ ds).all isXidContinue) = true
      rw [hcs.1, List.all_append, hcs.2, List.all_eq_true.mpr hds]
      rfl

/-- An identifier put after an identifier gives an identifier. -/
theorem isIdentText_append_text {s t : String} (hs : isIdentText s.toList = true)
    (ht : isIdentText t.toList = true) : isIdentText (s ++ t).toList = true := by
  rw [String.toList_append]
  exact isIdentText_append hs (all_isXidContinue ht)

/-- What stands before a raw name is no part of an identifier. -/
theorem isIdentText_of_mem_hash {cs : List Char} (h : '#' ∈ cs) : isIdentText cs = false := by
  cases hform : isIdentText cs with
  | false => rfl
  | true => exact absurd (all_isXidContinue hform '#' h) (by decide)

/-! ## Snake case -/

/-- What is trimmed off is neither a letter nor a number. -/
theorem exists_trimmed (name : List Char) :
    ∃ tail, name = trimTrailing name ++ tail ∧ ∀ c ∈ tail, isAlphanumeric c = false := by
  refine ⟨(name.reverse.takeWhile fun c => !isAlphanumeric c).reverse, ?_, ?_⟩
  · rw [trimTrailing, ← List.reverse_append, List.takeWhile_append_dropWhile, List.reverse_reverse]
  · intro c hc
    have hdropped := List.mem_takeWhile_imp (List.mem_reverse.mp hc)
    simpa using hdropped

/-- Trimming leaves the first letter or number where it is. -/
theorem find?_trimTrailing (name : List Char) :
    (trimTrailing name).find? isAlphanumeric = name.find? isAlphanumeric := by
  obtain ⟨tail, hname, htail⟩ := exists_trimmed name
  have hnone : tail.find? isAlphanumeric = none := by
    rw [List.find?_eq_none]
    intro c hc
    simp [htail c hc]
  calc (trimTrailing name).find? isAlphanumeric
      = (trimTrailing name ++ tail).find? isAlphanumeric := by
        rw [List.find?_append, hnone, Option.or_none]
    _ = name.find? isAlphanumeric := by rw [← hname]

/-- A walk at the start of a word begins with the next letter or number. -/
theorem head?_snakeWords (name cs : List Char) (position : Nat) :
    (snakeWords name position true cs).head? = (cs.find? isAlphanumeric).map Char.toLower := by
  induction cs generalizing position with
  | nil => rfl
  | cons c rest ih =>
      unfold snakeWords
      cases hc : isAlphanumeric c with
      | false => simpa [hc] using ih (position + c.utf8Size)
      | true => simp [hc]

/-- A walk writes underscores, and the letters and numbers it meets. -/
theorem mem_snakeWords {name cs : List Char} {position : Nat} {first : Bool} {x : Char}
    (h : x ∈ snakeWords name position first cs) :
    x = '_' ∨ ∃ c ∈ cs, isAlphanumeric c = true ∧ x = c.toLower := by
  induction cs generalizing position first with
  | nil => exact nomatch h
  | cons c rest ih =>
      have hlater : ∀ {p : Nat} {b : Bool}, x ∈ snakeWords name p b rest →
          x = '_' ∨ ∃ d ∈ c :: rest, isAlphanumeric d = true ∧ x = d.toLower := by
        intro p b hx
        rcases ih hx with heq | ⟨d, hd, halnum, heq⟩
        · exact .inl heq
        · exact .inr ⟨d, List.mem_cons_of_mem c hd, halnum, heq⟩
      unfold snakeWords at h
      cases hc : isAlphanumeric c with
      | false =>
          cases first with
          | true => exact hlater (by simpa [hc] using h)
          | false =>
              rcases List.mem_cons.mp (by simpa [hc] using h) with heq | hx
              · exact .inl heq
              · exact hlater hx
      | true =>
          -- the letter is written, possibly after an underscore that starts a word
          have hwritten : x = '_' ∨ x = c.toLower
              ∨ x ∈ snakeWords name (position + c.utf8Size) false rest := by
            simp only [hc, Bool.not_true] at h
            split at h
            · exact nomatch ‹false = true›
            · split at h
              · simpa using h
              · exact .inr (by simpa using h)
          rcases hwritten with heq | heq | hx
          · exact .inl heq
          · exact .inr ⟨c, List.mem_cons_self .., hc, heq⟩
          · exact hlater hx

theorem toList_snakeCase (name : String) :
    (snakeCase name).toList = snakeWords name.toList 0 true (trimTrailing name.toList) := by
  rw [snakeCase, String.toList_ofList]

/-- A name in snake case begins with the first letter or number of the name. -/
theorem head?_snakeCase (name : String) :
    (snakeCase name).toList.head? = (name.toList.find? isAlphanumeric).map Char.toLower := by
  rw [toList_snakeCase, head?_snakeWords, find?_trimTrailing]

/-- A name in snake case has underscores, and letters and numbers of the name. -/
theorem mem_snakeCase {name : String} {x : Char} (h : x ∈ (snakeCase name).toList) :
    x = '_' ∨ ∃ c ∈ name.toList, isAlphanumeric c = true ∧ x = c.toLower := by
  rw [toList_snakeCase] at h
  obtain ⟨tail, hname, -⟩ := exists_trimmed name.toList
  rcases mem_snakeWords h with heq | ⟨c, hc, halnum, heq⟩
  · exact .inl heq
  · refine .inr ⟨c, ?_, halnum, heq⟩
    rw [hname]
    exact List.mem_append_left tail hc

/-- The characters of an identifier in snake case can all continue one. -/
theorem isXidContinue_of_mem_snakeCase {name : String} (hname : isIdentText name.toList = true)
    {x : Char} (h : x ∈ (snakeCase name).toList) : isXidContinue x = true := by
  rcases mem_snakeCase h with rfl | ⟨c, hc, -, rfl⟩
  · decide
  · rw [isXidContinue_toLower]
    exact all_isXidContinue hname c hc

/-- A check can be named after every identifier. -/
theorem isIdentText_check {name : String} (hname : isIdentText name.toList = true) :
    isIdentText ("is_" ++ snakeCase name).toList = true := by
  rw [String.toList_append]
  exact isIdentText_append (by decide) fun x hx => isXidContinue_of_mem_snakeCase hname hx

/-- **An identifier in snake case is one** exactly when it has a letter or number
    and the first of them can start an identifier. -/
theorem isIdentText_snakeCase_iff {name : String} (hname : isIdentText name.toList = true) :
    isIdentText (snakeCase name).toList = true
      ↔ ∃ c, name.toList.find? isAlphanumeric = some c ∧ isXidStart c = true := by
  have hhead := head?_snakeCase name
  have hcontinue : ∀ x ∈ (snakeCase name).toList, isXidContinue x = true :=
    fun x hx => isXidContinue_of_mem_snakeCase hname hx
  cases hsnake : (snakeCase name).toList with
  | nil =>
      rw [hsnake, List.head?_nil] at hhead
      have hnone := Option.map_eq_none_iff.mp hhead.symm
      constructor
      · intro h
        exact nomatch h
      · rintro ⟨c, hfound, -⟩
        rw [hnone] at hfound
        exact nomatch hfound
  | cons x rest =>
      rw [hsnake, List.head?_cons] at hhead
      obtain ⟨c, hfound, rfl⟩ := Option.map_eq_some_iff.mp hhead.symm
      rw [hsnake] at hcontinue
      have hrest : rest.all isXidContinue = true :=
        List.all_eq_true.mpr fun y hy => hcontinue y (List.mem_cons_of_mem _ hy)
      rw [isIdentText, hrest, Bool.and_true, isIdentStart_toLower (List.find?_some hfound)]
      constructor
      · intro h
        exact ⟨c, hfound, h⟩
      · rintro ⟨d, hd, hstart⟩
        rw [hfound] at hd
        rwa [Option.some.inj hd]

/-- A name in snake case is never just an underscore. -/
theorem snakeCase_ne_underscore (name : String) : snakeCase name ≠ "_" := by
  intro heq
  have hhead := head?_snakeCase name
  rw [heq] at hhead
  obtain ⟨c, hfound, hc⟩ := Option.map_eq_some_iff.mp hhead.symm
  exact toLower_ne_underscore (List.find?_some hfound) hc

end Text

/-! ## Making identifiers -/

namespace Ident

open Text

/-- An identifier can be made from a text exactly when the text has the form of
    one: the other two checks reject only texts that have not. -/
theorem validate_eq_ok_iff (text : String) :
    validate text = .ok () ↔ isIdentText text.toList = true := by
  unfold validate
  by_cases hempty : text.isEmpty = true
  · rw [if_pos hempty, String.isEmpty_iff.mp hempty]
    exact ⟨fun h => (nomatch h), fun h => absurd h (by decide)⟩
  · rw [if_neg hempty]
    by_cases hdigits : text.toList.all Char.isDigit = true
    · rw [if_pos hdigits]
      refine ⟨fun h => (nomatch h), fun hform => ?_⟩
      cases htext : text.toList with
      | nil => rw [htext] at hform; exact nomatch hform
      | cons c rest =>
          rw [htext] at hform hdigits
          have hdigit := (isDigit_iff c).mp (List.all_eq_true.mp hdigits c (List.mem_cons_self ..))
          have hstart : isIdentStart c = true := by
            unfold isIdentText at hform
            exact (Bool.and_eq_true_iff.mp hform).1
          unfold isIdentStart at hstart
          rcases Bool.or_eq_true .. ▸ hstart with hunderscore | halpha
          · rw [eq_of_beq hunderscore] at hdigit
            exact absurd hdigit (by decide)
          · rw [isXidStart, if_pos (by omega), isAlpha_iff] at halpha
            omega
    · rw [if_neg hdigits]
      by_cases hform : isIdentText text.toList = true
      · rw [if_pos hform]
        exact ⟨fun _ => hform, fun _ => rfl⟩
      · rw [if_neg hform]
        exact ⟨fun h => (nomatch h), fun h => absurd h hform⟩

/-- An identifier that is made has the text it is made from. -/
theorem make_eq_ok_iff {text : String} {span : Span} {i : Ident} :
    make text span = .ok i ↔ isIdentText text.toList = true ∧ i = { text := text, span := span } := by
  rw [← validate_eq_ok_iff]
  unfold make
  cases hvalid : validate text with
  | error c =>
      exact ⟨fun h => (nomatch h), fun h => (nomatch h.1)⟩
  | ok u =>
      constructor
      · intro h
        exact ⟨rfl, (Except.ok.inj h).symm⟩
      · rintro ⟨-, rfl⟩
        rfl

/-- A raw identifier can be made from a text with the form of an identifier, unless
    the name cannot be raw. -/
theorem makeRaw_eq_ok_iff {text : String} {span : Span} {i : Ident} :
    makeRaw text span = .ok i ↔ isIdentText text.toList = true ∧ text ∉ unrawable
      ∧ i = { text := text, raw := true, span := span } := by
  rw [← validate_eq_ok_iff]
  unfold makeRaw
  cases hvalid : validate text with
  | error c =>
      exact ⟨fun h => (nomatch h), fun h => (nomatch h.1)⟩
  | ok u =>
      by_cases hraw : text ∈ unrawable
      · have hcontains : unrawable.contains text = true := List.contains_iff_mem.mpr hraw
        constructor
        · intro h
          simp only [hcontains, if_true] at h
          exact nomatch h
        · rintro ⟨-, hnot, -⟩
          exact absurd hraw hnot
      · have hcontains : ¬ unrawable.contains text = true := fun h =>
          hraw (List.contains_iff_mem.mp h)
        constructor
        · intro h
          simp only [hcontains] at h
          exact ⟨rfl, hraw, (Except.ok.inj h).symm⟩
        · rintro ⟨-, -, rfl⟩
          simp only [hcontains]
          rfl

/-- The keywords that get an underscore. -/
def suffixed : List String := ["crate", "self", "super", "Self"]

/-- The text that a name gets when it is escaped. -/
def escapedText (text : String) : String := if text ∈ suffixed then text ++ "_" else text

/-- The keywords that get an underscore are no names, and are names with it. -/
theorem readsAsName_suffixed {text : String} (h : text ∈ suffixed) :
    readsAsName text = false ∧ readsAsName (text ++ "_") = true
      ∧ isIdentText (text ++ "_").toList = true := by
  have hall : ∀ t ∈ suffixed, readsAsName t = false ∧ readsAsName (t ++ "_") = true
      ∧ isIdentText (t ++ "_").toList = true := by decide +kernel
  exact hall text h

/-- What an escaped identifier is: its text is that of the name, with an underscore
    after a keyword that cannot be raw, and it is raw exactly when the text does not
    read as a name. -/
theorem escaped_eq_ok_iff {text : String} {span : Span} {i : Ident} :
    escaped text span = .ok i ↔ isIdentText text.toList = true ∧ text ≠ "_"
      ∧ i = { text := escapedText text, raw := !readsAsName (escapedText text), span := span } := by
  unfold escaped
  by_cases hname : readsAsName text = true
  · -- a name is taken as it is; it is neither of the keywords
    have hplain : text ∉ suffixed := fun hmem => by
      rw [(readsAsName_suffixed hmem).1] at hname
      exact nomatch hname
    have hne : text ≠ "_" := by
      rintro rfl
      exact absurd hname (by decide +kernel)
    rw [if_pos hname, make_eq_ok_iff, escapedText, if_neg hplain, hname]
    simp [hne]
  · rw [if_neg hname]
    by_cases hmem : text ∈ suffixed
    · have hcontains : ["crate", "self", "super", "Self"].contains text = true :=
        List.contains_iff_mem.mpr hmem
      obtain ⟨-, hreads, hform⟩ := readsAsName_suffixed hmem
      have hall : ∀ t ∈ suffixed, isIdentText t.toList = true ∧ t ≠ "_" := by decide
      rw [if_pos hcontains, make_eq_ok_iff, escapedText, if_pos hmem, hreads]
      constructor
      · rintro ⟨-, rfl⟩
        exact ⟨(hall text hmem).1, (hall text hmem).2, rfl⟩
      · rintro ⟨-, -, rfl⟩
        exact ⟨hform, rfl⟩
    · have hcontains : ¬ ["crate", "self", "super", "Self"].contains text = true := fun h =>
        hmem (List.contains_iff_mem.mp h)
      have hraw : text ∉ unrawable ↔ text ≠ "_" := by
        constructor
        · rintro hnot rfl
          exact hnot (by decide)
        · intro hne hin
          simp only [unrawable, suffixed, List.mem_cons, List.not_mem_nil, or_false,
            not_or] at hin hmem
          rcases hin with h | h | h | h | h
          · exact hne h
          · exact hmem.2.2.1 h
          · exact hmem.2.1 h
          · exact hmem.2.2.2 h
          · exact hmem.1 h
      rw [if_neg hcontains, makeRaw_eq_ok_iff, hraw, escapedText, if_neg hmem]
      simp [hname]

/-- The text of an escaped identifier, and whether it is raw. -/
theorem text_of_escaped {text : String} {span : Span} {i : Ident}
    (h : escaped text span = .ok i) :
    i.text = escapedText text ∧ i.raw = !readsAsName i.text := by
  obtain ⟨-, -, hi⟩ := escaped_eq_ok_iff.mp h
  rw [hi]
  exact ⟨rfl, rfl⟩

/-- **A name can be escaped** exactly when it has the form of an identifier and is
    not the underscore. -/
theorem exists_escaped_iff {text : String} {span : Span} :
    (∃ i, escaped text span = .ok i) ↔ isIdentText text.toList = true ∧ text ≠ "_" := by
  constructor
  · rintro ⟨i, hi⟩
    obtain ⟨hform, hne, -⟩ := escaped_eq_ok_iff.mp hi
    exact ⟨hform, hne⟩
  · rintro ⟨hform, hne⟩
    exact ⟨_, escaped_eq_ok_iff.mpr ⟨hform, hne, rfl⟩⟩

end Ident

end DeclMacros
