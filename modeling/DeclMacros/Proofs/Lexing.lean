import DeclMacros.Proofs.Readable
import DeclMacros.Token.Lexer

/-! # What the tokens of a text are

    Two facts about the tokens of a text.  Names have the form of identifiers and
    numbers that of numbers, whatever the text is (`areLexed_of_lex?`); and a text
    without quotes, brackets and slashes has no literals but numbers and no groups, so
    that it can be read (`isReadable_of_lex?`).

    Both are one induction along the text (`Lexer.forall_of_run`), from what holds of a
    single token.  A number is followed from recogniser to recogniser: each takes a
    stretch of characters none of which delimits (`Takes`). -/

set_option autoImplicit false

namespace DeclMacros

namespace Lexeme

open DeclMacros.Text

/-! ## Stretches of a text -/

/-- From the first text to the second a stretch is taken that nothing delimits. -/
def Takes (cs rest : List Char) : Prop :=
  ∃ used, cs = used ++ rest ∧ ∀ c ∈ used, isDelimiting c = false

theorem Takes.refl (cs : List Char) : Takes cs cs := ⟨[], rfl, List.forall_mem_nil _⟩

theorem Takes.cons {c : Char} {cs rest : List Char} (hc : isDelimiting c = false)
    (h : Takes cs rest) : Takes (c :: cs) rest := by
  obtain ⟨used, rfl, hused⟩ := h
  exact ⟨c :: used, rfl, List.forall_mem_cons.mpr ⟨hc, hused⟩⟩

theorem Takes.trans {cs ds es : List Char} (h : Takes cs ds) (h' : Takes ds es) : Takes cs es := by
  obtain ⟨used, rfl, hused⟩ := h
  obtain ⟨used', rfl, hused'⟩ := h'
  refine ⟨used ++ used', (List.append_assoc ..).symm, ?_⟩
  exact List.forall_mem_append.mpr ⟨hused, hused'⟩

/-- A test that fails on all that delimits holds of nothing that does. -/
theorem isDelimiting_eq_false {test : Char → Bool} {c : Char} (h : test c = true)
    (htest : ['"', '\'', '(', ')', '[', ']', '\x7b', '\x7d', '/'].all (fun d => !test d) = true) :
    isDelimiting c = false := by
  by_contra hc
  rw [Bool.not_eq_false, isDelimiting, List.contains_iff_mem] at hc
  have hfails := List.all_eq_true.mp htest c hc
  rw [h] at hfails
  cases hfails

theorem isDelimiting_of_isXidContinue {c : Char} (h : isXidContinue c = true) :
    isDelimiting c = false :=
  isDelimiting_eq_false h (by decide)

theorem isDelimiting_of_isIdentStart {c : Char} (h : isIdentStart c = true) :
    isDelimiting c = false :=
  isDelimiting_eq_false h (by decide)

theorem isDelimiting_of_isDigit {c : Char} (h : isDigit c = true) : isDelimiting c = false :=
  isDelimiting_eq_false h (by decide)

theorem isDelimiting_of_hexDigit? {c : Char} (h : (hexDigit? c).isSome = true) :
    isDelimiting c = false :=
  @isDelimiting_eq_false (fun d => (hexDigit? d).isSome) c h (by decide)

/-! ## Numbers -/

theorem takes_skipSuffix (cs : List Char) : Takes cs (skipSuffix cs) := by
  unfold skipSuffix identifier?
  cases cs with
  | nil => exact .refl _
  | cons c cs =>
      by_cases hc : isIdentStart c = true
      · dsimp only
        rw [if_pos hc]
        refine ⟨c :: cs.takeWhile isXidContinue, ?_, ?_⟩
        · rw [List.cons_append, List.takeWhile_append_dropWhile]
        · refine List.forall_mem_cons.mpr ⟨isDelimiting_of_isIdentStart hc, ?_⟩
          intro d hd
          exact isDelimiting_of_isXidContinue (List.all_eq_true.mp List.all_takeWhile d hd)
      · dsimp only
        rw [if_neg hc]
        exact .refl _

theorem takes_endNumber? {cs rest : List Char} (h : endNumber? cs = some rest) :
    Takes cs rest := by
  have hsuffix := takes_skipSuffix cs
  unfold endNumber? at h
  split at h
  · next heq => rwa [← Option.some.inj h, ← heq]
  · next c tail heq =>
      split at h
      · cases h
      · rwa [← Option.some.inj h, ← heq]

/-- The mantissa is a stretch of this text that nothing delimits. -/
def Mantissa.Of (cs : List Char) : Mantissa → Prop
  | .rejected => True
  | .plain _ rest => Takes cs rest
  | .exponent _ letter rest => Takes cs (letter :: rest) ∧ isDelimiting letter = false

theorem Mantissa.Of.cons {c : Char} {cs : List Char} {m : Mantissa} (hc : isDelimiting c = false)
    (h : m.Of cs) : m.Of (c :: cs) := by
  cases m with
  | rejected => trivial
  | plain dot rest => exact Takes.cons hc h
  | exponent dot letter rest => exact ⟨h.1.cons hc, h.2⟩

theorem mantissa_of (dot : Bool) (cs : List Char) : (mantissa dot cs).Of cs := by
  induction cs generalizing dot with
  | nil => exact .refl _
  | cons c cs ih =>
      rw [mantissa]
      split
      · next hdigit =>
          refine (ih dot).cons ?_
          rcases Bool.or_eq_true_iff.mp hdigit with hdigit | hunderscore
          · exact isDelimiting_of_isDigit hdigit
          · rw [of_decide_eq_true hunderscore]; rfl
      · split
        · next hdot =>
            subst hdot
            split
            · exact .refl _
            · split
              · trivial
              · exact (ih true).cons rfl
        · split
          · next hletter =>
              refine ⟨.refl _, ?_⟩
              rcases Bool.or_eq_true_iff.mp hletter with h | h <;> rw [of_decide_eq_true h] <;> rfl
          · exact .refl _

theorem takes_exponent? {sign digit : Bool} {cs rest : List Char}
    (h : exponent? sign digit cs = some rest) : Takes cs rest := by
  induction cs generalizing sign digit with
  | nil =>
      rw [exponent?] at h
      split at h
      · exact Option.some.inj h ▸ .refl _
      · cases h
  | cons c cs ih =>
      rw [exponent?] at h
      split at h
      · next hsign =>
          split at h
          · exact Option.some.inj h ▸ .refl _
          · split at h
            · cases h
            · refine (ih h).cons ?_
              rcases Bool.or_eq_true_iff.mp hsign with hc | hc <;> rw [of_decide_eq_true hc] <;> rfl
      · split at h
        · next hdigit => exact (ih h).cons (isDelimiting_of_isDigit hdigit)
        · split at h
          · next hunderscore => exact (ih h).cons (hunderscore ▸ rfl)
          · split at h
            · exact Option.some.inj h ▸ .refl _
            · cases h

theorem takes_baseDigits? {base : Nat} {empty : Bool} {cs rest : List Char}
    (h : baseDigits? base empty cs = some rest) : Takes cs rest := by
  induction cs generalizing empty with
  | nil =>
      rw [baseDigits?] at h
      split at h
      · cases h
      · exact Option.some.inj h ▸ .refl _
  | cons c cs ih =>
      rw [baseDigits?] at h
      split at h
      · next hdigit =>
          split at h
          · exact (ih h).cons (isDelimiting_of_isDigit hdigit)
          · cases h
      · split at h
        · next hunderscore =>
            split at h
            · cases h
            · exact (ih h).cons (hunderscore ▸ rfl)
        · split at h
          · next d hhex =>
              split at h
              · exact (ih h).cons (isDelimiting_of_hexDigit? (hhex ▸ rfl))
              · split at h
                · cases h
                · exact Option.some.inj h ▸ .refl _
          · split at h
            · cases h
            · exact Option.some.inj h ▸ .refl _

/-! ## Expected starts -/

theorem append_of_after? {start : String} {cs rest : List Char}
    (h : after? start cs = some rest) : cs = start.toList ++ rest := by
  unfold after? at h
  dsimp only at h
  split at h
  · next hstart =>
      rw [← Option.some.inj h]
      exact (List.prefix_iff_eq_append.mp (List.isPrefixOf_iff_prefix.mp hstart)).symm
  · cases h

/-- From the first text to the second a stretch is taken that starts with a digit and
    that nothing delimits. -/
def TakesNumber (cs rest : List Char) : Prop :=
  ∃ c tail, cs = c :: tail ∧ isDigit c = true ∧ Takes tail rest

theorem TakesNumber.trans {cs ds es : List Char} (h : TakesNumber cs ds) (h' : Takes ds es) :
    TakesNumber cs es := by
  obtain ⟨c, tail, rfl, hc, htail⟩ := h
  exact ⟨c, tail, rfl, hc, htail.trans h'⟩

theorem takes_floatDigits? {cs rest : List Char} (h : floatDigits? cs = some rest) :
    TakesNumber cs rest := by
  cases cs with
  | nil => cases h
  | cons c cs =>
      rw [floatDigits?] at h
      split at h
      · next hdigit =>
          refine ⟨c, cs, rfl, hdigit, ?_⟩
          have hmantissa := mantissa_of false cs
          split at h
          · cases h
          · next dot tail heq =>
              rw [heq] at hmantissa
              split at h
              · exact Option.some.inj h ▸ hmantissa
              · cases h
          · next dot letter tail heq =>
              rw [heq] at hmantissa
              split at h
              · next tail' hexponent =>
                  rw [← Option.some.inj h]
                  exact hmantissa.1.trans (Takes.cons hmantissa.2 (takes_exponent? hexponent))
              · split at h
                · exact Option.some.inj h ▸ hmantissa.1
                · cases h
      · cases h

/-- A hexadecimal digit that is no decimal one is at least ten. -/
theorem not_lt_of_hexDigit? {c : Char} {d : Nat} (hc : ¬ isDigit c = true)
    (h : hexDigit? c = some d) : ¬ d < 10 := by
  unfold hexDigit? at h
  unfold isDigit at hc
  rw [if_neg hc] at h
  split at h
  · rw [← Option.some.inj h]; omega
  · split at h
    · rw [← Option.some.inj h]; omega
    · cases h

theorem takes_decimal? {cs rest : List Char} (h : baseDigits? 10 true cs = some rest) :
    TakesNumber cs rest := by
  cases cs with
  | nil => cases h
  | cons c cs =>
      rw [baseDigits?] at h
      split at h
      · next hdigit =>
          split at h
          · exact ⟨c, cs, rfl, hdigit, takes_baseDigits? h⟩
          · cases h
      · next hdigit =>
          split at h
          · cases h
          · split at h
            · next d hhex =>
                rw [if_neg (not_lt_of_hexDigit? hdigit hhex)] at h
                cases h
            · cases h

theorem takes_intDigits? {cs rest : List Char} (h : intDigits? cs = some rest) :
    TakesNumber cs rest := by
  unfold intDigits? at h
  split at h
  · next hafter =>
      exact ⟨'0', _, append_of_after? hafter, rfl, (takes_baseDigits? h).cons rfl⟩
  · next hafter _ =>
      exact ⟨'0', _, append_of_after? hafter, rfl, (takes_baseDigits? h).cons rfl⟩
  · next hafter _ _ =>
      exact ⟨'0', _, append_of_after? hafter, rfl, (takes_baseDigits? h).cons rfl⟩
  · exact takes_decimal? h

/-- A number starts with a digit and has nothing in it that delimits. -/
theorem takes_number? {cs rest : List Char} (h : number? cs = some rest) :
    TakesNumber cs rest := by
  rw [number?, Option.orElse_eq_orElse, Option.orElse_eq_or] at h
  rcases Option.or_eq_some_iff.mp h with hfloat | ⟨-, hint⟩
  · obtain ⟨digits, hdigits, hend⟩ := Option.bind_eq_some_iff.mp hfloat
    exact (takes_floatDigits? hdigits).trans (takes_endNumber? hend)
  · obtain ⟨digits, hdigits, hend⟩ := Option.bind_eq_some_iff.mp hint
    exact (takes_intDigits? hdigits).trans (takes_endNumber? hend)

/-! ## Literals -/

/-- Nothing that starts otherwise than with a digit stands where a digit stands. -/
theorem after?_eq_none_of_isDigit {start : String} {cs : List Char}
    (hcs : cs.head?.any isDigit = true)
    (hstart : start.toList.head?.any (fun c => !isDigit c) = true) : after? start cs = none := by
  cases hafter : after? start cs with
  | none => rfl
  | some rest =>
      rw [append_of_after? hafter] at hcs
      cases hlist : start.toList with
      | nil => rw [hlist] at hstart; cases hstart
      | cons c tail =>
          rw [hlist] at hcs hstart
          simp_all

/-- Where a digit stands a literal is a number. -/
theorem literal?_of_isDigit {cs : List Char} (h : cs.head?.any isDigit = true) :
    literal? cs = number? cs := by
  unfold literal? string? byte? character?
  repeat rw [after?_eq_none_of_isDigit h (by decide)]
  rfl

/-- What has a character that is not in the text does not stand there. -/
theorem after?_eq_none_of_not_mem {start : String} {cs : List Char} {c : Char} (hc : c ∉ cs)
    (hstart : c ∈ start.toList) : after? start cs = none := by
  cases hafter : after? start cs with
  | none => rfl
  | some rest =>
      rw [append_of_after? hafter] at hc
      exact absurd (List.mem_append_left rest hstart) hc

theorem startsWith_eq_false_of_not_mem {start : String} {cs : List Char} {c : Char} (hc : c ∉ cs)
    (hstart : c ∈ start.toList) : startsWith start cs = false := by
  by_contra h
  rw [Bool.not_eq_false, startsWith, List.isPrefixOf_iff_prefix] at h
  exact hc (h.subset hstart)

theorem raw?_eq_none {plain : Char → Bool} {cs : List Char} (h : '"' ∉ cs) :
    raw? plain cs = none := by
  unfold raw?
  dsimp only
  split
  · next body hbody =>
      exact absurd (List.mem_of_mem_drop (hbody ▸ List.mem_cons_self ..)) h
  · rfl

theorem bind_raw?_eq_none {start : String} {plain : Char → Bool} {cs : List Char} (h : '"' ∉ cs) :
    (after? start cs).bind (raw? plain) = none := by
  cases hafter : after? start cs with
  | none => rfl
  | some rest =>
      refine raw?_eq_none fun hrest => h ?_
      rw [append_of_after? hafter]
      exact List.mem_append_right _ hrest

/-- Without quotes there are no literals but numbers. -/
theorem literal?_of_not_mem {cs : List Char} (h : '"' ∉ cs) (h' : '\'' ∉ cs) :
    literal? cs = number? cs := by
  unfold literal? string? byte? character?
  rw [bind_raw?_eq_none h, bind_raw?_eq_none h, bind_raw?_eq_none h,
    after?_eq_none_of_not_mem h (by decide), after?_eq_none_of_not_mem h (by decide),
    after?_eq_none_of_not_mem h (by decide), after?_eq_none_of_not_mem h' (by decide),
    after?_eq_none_of_not_mem h' (by decide)]
  rfl

/-! ## Punctuation and words -/

theorem eq_cons_of_punctuation? {cs rest : List Char} {c : Char}
    (h : punctuation? cs = some (c, rest)) : cs = c :: rest := by
  cases cs with
  | nil => cases h
  | cons d cs =>
      rw [punctuation?] at h
      split at h
      · cases h
      · split at h
        · cases h
          rfl
        · cases h

theorem identifier?_spec {cs name rest : List Char} (h : identifier? cs = some (name, rest)) :
    isIdentText name = true ∧ rest <:+ cs := by
  cases cs with
  | nil => cases h
  | cons c cs =>
      rw [identifier?] at h
      split at h
      · next hstart =>
          cases h
          refine ⟨Bool.and_eq_true_iff.mpr ⟨hstart, List.all_takeWhile⟩, ?_⟩
          exact (List.dropWhile_suffix _).trans (List.suffix_cons _ _)
      · cases h

/-- A word has the form of an identifier. -/
theorem word?_spec {cs name rest : List Char} {raw : Bool} (h : word? cs = some (raw, name, rest)) :
    isIdentText name = true ∧ rest <:+ cs := by
  unfold word? at h
  split at h
  · cases h
  · unfold anyIdentifier? at h
    split at h
    · next tail hafter =>
        split at h
        · next name' rest' hname =>
            split at h
            · cases h
            · cases h
              obtain ⟨hform, hrest⟩ := identifier?_spec hname
              refine ⟨hform, hrest.trans ?_⟩
              exact append_of_after? hafter ▸ List.suffix_append _ _
        · cases h
    · obtain ⟨⟨name', rest'⟩, hname, heq⟩ := Option.map_eq_some_iff.mp h
      cases heq
      exact identifier?_spec hname

end Lexeme

namespace Lexer

open Lexeme (isDelimiting)

/-! ## Single tokens -/

/-- The text of a literal is the stretch that it takes. -/
theorem take_eq_of_append (used rest : List Char) :
    (used ++ rest).take ((used ++ rest).length - rest.length) = used := by
  rw [List.length_append, Nat.add_sub_cancel, List.take_left]

/-- The cases of a token that is not a group. -/
theorem leaf?_cases {start : Nat} {cs rest : List Char} {t : Token}
    (h : leaf? start cs = some (t, rest)) :
    (∃ span, Lexeme.literal? cs = some rest ∧
        t = .literal (String.ofList (cs.take (cs.length - rest.length))) span) ∨
      (∃ c spacing span, cs = c :: rest ∧ t = .punct c spacing span) ∨
      (∃ i : Ident, i.hasForm = true ∧ rest <:+ cs ∧ t = .ident i) ∨
      ∃ span, Lexeme.after? errorMark cs = some rest ∧ t = .literal errorMark span := by
  unfold leaf? at h
  dsimp only at h
  split at h
  · next rest' hliteral =>
      cases h
      exact .inl ⟨_, hliteral, rfl⟩
  · split at h
    · next rest' hpunct =>
        split at h
        · cases h
          exact .inr (.inl ⟨_, _, _, Lexeme.eq_cons_of_punctuation? hpunct, rfl⟩)
        · cases h
    · next c rest' _ hpunct =>
        cases h
        exact .inr (.inl ⟨_, _, _, Lexeme.eq_cons_of_punctuation? hpunct, rfl⟩)
    · split at h
      · next raw name rest' hword =>
          cases h
          obtain ⟨hform, hrest⟩ := Lexeme.word?_spec hword
          refine .inr (.inr (.inl ⟨_, ?_, hrest, rfl⟩))
          rwa [Ident.hasForm, String.toList_ofList]
      · obtain ⟨rest', hafter, heq⟩ := Option.map_eq_some_iff.mp h
        cases heq
        exact .inr (.inr (.inr ⟨_, hafter, rfl⟩))

/-- The text of a number starts with a digit and has nothing in it that delimits, and
    what follows it ends the text. -/
theorem take_of_number? {cs rest : List Char} (h : Lexeme.number? cs = some rest) :
    (∃ c used, cs.take (cs.length - rest.length) = c :: used ∧ Lexeme.isDigit c = true ∧
      ∀ d ∈ c :: used, isDelimiting d = false) ∧ rest <:+ cs := by
  obtain ⟨c, tail, rfl, hc, used, rfl, hused⟩ := Lexeme.takes_number? h
  refine ⟨⟨c, used, take_eq_of_append (c :: used) rest, hc, ?_⟩, ?_⟩
  · exact List.forall_mem_cons.mpr ⟨Lexeme.isDelimiting_of_isDigit hc, hused⟩
  · exact (List.suffix_append _ _).trans (List.suffix_cons _ _)

/-- A token that is not a group is such as a text can have. -/
theorem isLexed_of_leaf? {start : Nat} {cs rest : List Char} {t : Token}
    (h : leaf? start cs = some (t, rest)) : t.isLexed = true := by
  rcases leaf?_cases h with ⟨span, hliteral, rfl⟩ | ⟨c, spacing, span, -, rfl⟩ |
    ⟨i, hform, -, rfl⟩ | ⟨span, -, rfl⟩
  · rw [Token.isLexed, Literal.isLexed, String.toList_ofList, Bool.or_eq_true]
    by_cases hdigit : cs.head?.any Lexeme.isDigit = true
    · rw [Lexeme.literal?_of_isDigit hdigit] at hliteral
      obtain ⟨⟨c, used, htake, -, hused⟩, -⟩ := take_of_number? hliteral
      rw [htake]
      exact .inr (List.all_eq_true.mpr fun d hd => by rw [hused d hd]; rfl)
    · refine .inl ?_
      rw [List.head?_take]
      split
      · rfl
      · simpa using hdigit
  · rfl
  · exact hform
  · rfl

theorem isKnown_of_isDigit {text : String} (h : text.toList.head?.any Lexeme.isDigit = true) :
    Literal.isKnown text = true := by
  refine decide_eq_true ?_
  unfold Literal.ofText
  dsimp only
  generalize text.toList = cs at h
  split
  case h_7 c tail _ _ _ _ _ _ =>
    rw [if_pos (show Lexeme.isDigit c = true from h)]
    split <;> simp
  case h_8 => cases h
  all_goals simp

/-- Without anything that delimits, a token can be read and is no group, and so does the
    text go on. -/
theorem leaf?_of_undelimited {start : Nat} {cs rest : List Char} {t : Token}
    (hcs : ∀ c ∈ cs, isDelimiting c = false) (h : leaf? start cs = some (t, rest)) :
    (∀ c ∈ rest, isDelimiting c = false) ∧
      t.isReadable = true ∧ ∀ d content span, t ≠ .group d content span := by
  have hnot : ∀ c, isDelimiting c = true → c ∉ cs := by
    intro c hc hmem
    rw [hcs c hmem] at hc
    cases hc
  have hlexed := isLexed_of_leaf? h
  rcases leaf?_cases h with ⟨span, hliteral, rfl⟩ | ⟨c, spacing, span, rfl, rfl⟩ |
    ⟨i, hform, hrest, rfl⟩ | ⟨span, hafter, rfl⟩
  · rw [Lexeme.literal?_of_not_mem (hnot _ (by decide)) (hnot _ (by decide))] at hliteral
    obtain ⟨⟨c, used, htake, hc, -⟩, hrest⟩ := take_of_number? hliteral
    refine ⟨fun c hc => hcs c (hrest.subset hc), ?_, by rintro _ _ _ ⟨⟩⟩
    rw [Token.isReadable, Literal.isReadable, Bool.and_eq_true]
    refine ⟨hlexed, isKnown_of_isDigit ?_⟩
    rw [String.toList_ofList, htake]
    exact hc
  · exact ⟨fun c hc => hcs c (List.mem_cons_of_mem _ hc), rfl, by rintro _ _ _ ⟨⟩⟩
  · exact ⟨fun c hc => hcs c (hrest.subset hc), hform, by rintro _ _ _ ⟨⟩⟩
  · rw [Lexeme.after?_eq_none_of_not_mem (hnot '(' (by decide)) (by decide)] at hafter
    cases hafter

/-! ## Whole texts -/

/-- What holds of single tokens, of documentation comments and of groups made from such
    tokens holds of all tokens of a text.  What is known of the text, `P`, has to stay true
    of what is left of it. -/
theorem forall_of_run {P : List Char → Prop} {Q : Token → Prop}
    (hblanks : ∀ n cs, P cs → P (Lexeme.skipBlanks n cs))
    (hdoc : ∀ cs d rest span, P cs → Lexeme.doc? cs = some (d, rest) →
      P rest ∧ ∀ t ∈ docAttribute d span, Q t)
    (hleaf : ∀ start cs t rest, P cs → leaf? start cs = some (t, rest) → P rest ∧ Q t)
    (hopening : ∀ c cs d, P (c :: cs) → opening? c = some d → P cs)
    (hclosing : ∀ c cs d, P (c :: cs) → closing? c = some d → P cs ∧
      ∀ content span, (∀ t ∈ content, Q t) → Q (.group d content span)) :
    ∀ fuel offset cs stack done ts, P cs → (∀ f ∈ stack, ∀ t ∈ f.before, Q t) →
      (∀ t ∈ done, Q t) → run fuel offset cs stack done = some ts → ∀ t ∈ ts, Q t := by
  intro fuel
  induction fuel with
  | zero =>
      intro offset cs stack done ts _ _ _ h
      cases h
  | succ fuel ih =>
      intro offset cs stack done ts hcs hstack hdone h
      rw [run] at h
      dsimp only at h
      have hhere := hblanks cs.length cs hcs
      generalize Lexeme.skipBlanks cs.length cs = here at h hhere
      split at h
      · next d rest hfound =>
          obtain ⟨hrest, hattr⟩ := hdoc here d rest _ hhere hfound
          refine ih _ rest stack _ ts hrest hstack ?_ h
          refine List.forall_mem_append.mpr ⟨?_, hdone⟩
          intro t ht
          exact hattr t (List.mem_reverse.mp ht)
      · split at h
        · split at h
          · rw [← Option.some.inj h]
            intro t ht
            exact hdone t (List.mem_reverse.mp ht)
          · cases h
        · next c rest _ =>
            split at h
            · next hopen =>
                split at h
                · split at h
                  · next t tail hfound =>
                      obtain ⟨htail, ht⟩ := hleaf _ _ t tail hhere hfound
                      refine ih _ tail _ _ ts htail hstack ?_ h
                      exact List.forall_mem_cons.mpr ⟨ht, hdone⟩
                  · cases h
                · refine ih _ rest _ [] ts (hopening c rest _ hhere hopen) ?_ ?_ h
                  · exact List.forall_mem_cons.mpr ⟨hdone, hstack⟩
                  · exact List.forall_mem_nil _
            · cases h
            · next d frame outer _ hclose =>
                split at h
                · obtain ⟨hrest, hgroup⟩ := hclosing c rest d hhere hclose
                  obtain ⟨hframe, houter⟩ := List.forall_mem_cons.mp hstack
                  refine ih _ rest outer _ ts hrest houter ?_ h
                  refine List.forall_mem_cons.mpr ⟨hgroup _ _ ?_, hframe⟩
                  intro t ht
                  exact hdone t (List.mem_reverse.mp ht)
                · cases h
            · split at h
              · next t tail hfound =>
                  obtain ⟨htail, ht⟩ := hleaf _ _ t tail hhere hfound
                  refine ih _ tail _ _ ts htail hstack ?_ h
                  exact List.forall_mem_cons.mpr ⟨ht, hdone⟩
              · cases h

theorem areLexed_iff (ts : List Token) :
    Token.areLexed ts = true ↔ ∀ t ∈ ts, t.isLexed = true := by
  induction ts with
  | nil => exact iff_of_true rfl (List.forall_mem_nil _)
  | cons t ts ih => rw [Token.areLexed, Bool.and_eq_true, ih, List.forall_mem_cons]

theorem isLexed_literalQuoted (text : String) :
    Literal.isLexed (Text.literalQuoted text) = true := by
  rw [Literal.isLexed, Text.literalQuoted, String.toList_ofList]
  rfl

theorem isLexed_of_docAttribute (d : Lexeme.Doc) (span : Span) :
    ∀ t ∈ docAttribute d span, t.isLexed = true := by
  have hname : Text.isIdentText ['d', 'o', 'c'] = true := by decide
  refine (areLexed_iff _).mp ?_
  unfold docAttribute
  cases d.inner <;> simp [Token.areLexed, Token.isLexed, Ident.hasForm, hname,
    isLexed_literalQuoted]

/-- The tokens of a text are such as a text can have. -/
theorem areLexed_of_run {fuel offset : Nat} {cs : List Char} {ts : List Token}
    (h : run fuel offset cs [] [] = some ts) : Token.areLexed ts = true := by
  refine (areLexed_iff ts).mpr (forall_of_run (P := fun _ => True) ?_ ?_ ?_ ?_ ?_ fuel offset cs
    [] [] ts trivial (List.forall_mem_nil _) (List.forall_mem_nil _) h)
  · exact fun _ _ _ => trivial
  · exact fun _ d _ span _ _ => ⟨trivial, isLexed_of_docAttribute d span⟩
  · exact fun _ _ _ _ _ hfound => ⟨trivial, isLexed_of_leaf? hfound⟩
  · exact fun _ _ _ _ _ => trivial
  · exact fun _ _ _ _ _ =>
      ⟨trivial, fun content _ hcontent => (areLexed_iff content).mpr hcontent⟩

/-! ## Texts without anything that delimits -/

/-- Without slashes no comment starts. -/
theorem startsWith_of_undelimited {cs : List Char} (hcs : ∀ c ∈ cs, isDelimiting c = false)
    {start : String} (hstart : '/' ∈ start.toList) : Lexeme.startsWith start cs = false :=
  Lexeme.startsWith_eq_false_of_not_mem (fun h => absurd (hcs '/' h) (by decide)) hstart

theorem skipBlanks_of_undelimited (n : Nat) {cs : List Char}
    (hcs : ∀ c ∈ cs, isDelimiting c = false) :
    ∀ c ∈ Lexeme.skipBlanks n cs, isDelimiting c = false := by
  induction n generalizing cs with
  | zero => exact hcs
  | succ n ih =>
      cases cs with
      | nil => exact hcs
      | cons c cs =>
          have hstart {start : String} := @startsWith_of_undelimited _ hcs start
          rw [Lexeme.skipBlanks, hstart (by decide), hstart (by decide), hstart (by decide),
            Bool.false_and, Bool.false_and, if_neg Bool.false_ne_true, if_neg Bool.false_ne_true,
            if_neg Bool.false_ne_true]
          split
          · exact ih (List.forall_mem_cons.mp hcs).2
          · exact hcs

theorem doc?_of_undelimited {cs : List Char} (hcs : ∀ c ∈ cs, isDelimiting c = false) :
    Lexeme.doc? cs = none := by
  have hline : Lexeme.isLineDoc cs = false := by
    rw [Lexeme.isLineDoc, startsWith_of_undelimited hcs (by decide),
      startsWith_of_undelimited hcs (by decide)]
    rfl
  have hblock : Lexeme.isBlockDoc cs = false := by
    rw [Lexeme.isBlockDoc, startsWith_of_undelimited hcs (by decide),
      startsWith_of_undelimited hcs (by decide)]
    rfl
  rw [Lexeme.doc?, hline, hblock]
  rfl

theorem isDelimiting_of_closing? {c : Char} {d : Delimiter} (h : closing? c = some d) :
    isDelimiting c = true := by
  unfold closing? at h
  split at h
  case h_4 => cases h
  all_goals rfl

/-- The tokens of a text without anything that delimits can be read: none is a group. -/
theorem isReadable_of_run {fuel offset : Nat} {cs : List Char} {ts : Tokens}
    (hcs : ∀ c ∈ cs, isDelimiting c = false) (h : run fuel offset cs [] [] = some ts) :
    ts.isReadable = true := by
  have hall : ∀ t ∈ ts, t.isReadable = true ∧ ∀ d content span, t ≠ .group d content span := by
    refine forall_of_run (P := fun cs => ∀ c ∈ cs, isDelimiting c = false) ?_ ?_ ?_ ?_ ?_ fuel
      offset cs [] [] ts hcs (List.forall_mem_nil _) (List.forall_mem_nil _) h
    · exact fun n _ hcs => skipBlanks_of_undelimited n hcs
    · intro cs d rest span hcs hfound
      rw [doc?_of_undelimited hcs] at hfound
      cases hfound
    · exact fun _ _ _ _ hcs hfound => leaf?_of_undelimited hcs hfound
    · exact fun _ _ _ hcs _ => (List.forall_mem_cons.mp hcs).2
    · intro c cs d hcs hclose
      have hc := hcs c (List.mem_cons_self ..)
      rw [isDelimiting_of_closing? hclose] at hc
      cases hc
  have hopened : Token.openedAll ts = ts := by
    refine Token.openedAll_of_isVisible fun t ht => ?_
    cases t with
    | group d content span => exact absurd rfl ((hall _ ht).2 d content span)
    | _ => rfl
  rw [Tokens.isReadable, Bool.and_eq_true, Token.areReadable_iff_openedAll, hopened]
  exact ⟨fun t ht => (hall t ht).1, Token.keepsSeparators_of_no_group fun t ht => (hall t ht).2⟩

end Lexer

namespace Tokens

/-- **The tokens of a text** have names in the form of identifiers and numbers in the form
    of numbers. -/
theorem areLexed_of_lex? {text : String} {ts : Tokens} (h : Tokens.lex? text = some ts) :
    Token.areLexed ts = true := by
  unfold Tokens.lex? at h
  split at h <;> exact Lexer.areLexed_of_run h

/-- **A text without quotes, brackets and slashes** can be read. -/
theorem isReadable_of_lex? {text : String} {ts : Tokens}
    (htext : ∀ c ∈ text.toList, Lexeme.isDelimiting c = false) (h : Tokens.lex? text = some ts) :
    ts.isReadable = true := by
  unfold Tokens.lex? at h
  split at h
  · next cs heq =>
      rw [heq] at htext
      exact Lexer.isReadable_of_run (List.forall_mem_cons.mp htext).2 h
  · exact Lexer.isReadable_of_run htext h

end Tokens

end DeclMacros
