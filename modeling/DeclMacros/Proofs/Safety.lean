import DeclMacros.Grammar.Attribute
import DeclMacros.Proofs.Readable

/-! # Readers that stay inside their source

    A reader is safe if it never crashes on a source, and what it leaves to read is
    the end of that source.  The second part carries the first through a sequence of
    steps: each starts where the one before it stopped.

    The route: one rule for each way to put readers together (`Gives.bind` and the
    rules after it), and one lemma for each reader of single tokens.  The rules are
    instances, so that a reader that is put together from safe ones is found to be
    safe by its form alone.  Where what is read matters too, the same rules give a
    condition on it (`Gives`); a safe reader is one that gives anything. -/

set_option autoImplicit false

namespace DeclMacros

open Token (openedAll)

/-- What is left to read ends a source. -/
class Input.Inside (L : Source) (i : Input) : Prop where
  suffix : openedAll i.tokens <:+ L.tokens

namespace Input.Inside

variable {L : Source} {i : Input}

/-- What stands at the front of the input is a token of the source. -/
theorem mem (h : i.Inside L) {t : Token} {rest : List Token}
    (ht : openedAll i.tokens = t :: rest) : t ∈ L.tokens :=
  h.suffix.subset (ht ▸ List.mem_cons_self ..)

/-- Reading on from the front stays inside. -/
theorem step (h : i.Inside L) {rest : List Token} (hrest : openedAll rest <:+ openedAll i.tokens)
    (leftover : Option Span) : Input.Inside L { i with tokens := rest, leftover := leftover } :=
  ⟨hrest.trans h.suffix⟩

end Input.Inside

/-- A place in a source. -/
abbrev Source.Place (L : Source) := {i : Input // i.Inside L}

instance Source.inside_place (L : Source) (s : L.Place) : s.1.Inside L := s.2

namespace Parser

/-! ## Outcomes -/

/-- The outcome is no crash, and satisfies a condition if it is a success. -/
def Ends {α : Type} (r : Except Failure (α × Input)) (Q : α → Input → Prop) : Prop :=
  match r with
  | .ok (a, j) => Q a j
  | .error (.fault _) => True
  | .error (.crash _) => False

/-- Started inside a source, a reader never crashes, stays inside and gives a value
    with a property. -/
class Gives {α : Type} (L : Source) (Q : α → Prop) (p : Parser α) : Prop where
  ends : ∀ i : Input, i.Inside L → Ends (p i) fun a j => j.Inside L ∧ Q a

/-- Started inside a source, a reader never crashes and stays inside. -/
abbrev Safe {α : Type} (L : Source) (p : Parser α) : Prop := Gives L (fun _ => True) p

/-- The reader is `Gives` whatever value it gets. -/
class GivesAll {α β : Type} (L : Source) (Q : β → Prop) (f : α → Parser β) : Prop where
  all : ∀ a, Gives L Q (f a)

section Rules

variable {α β γ δ : Type} {L : Source} {Q : β → Prop}

theorem Ends.mono {r : Except Failure (α × Input)} {Q R : α → Input → Prop} (h : Ends r Q)
    (hQR : ∀ a j, Q a j → R a j) : Ends r R := by
  rcases r with (f | c) | ⟨a, j⟩
  · trivial
  · exact h
  · exact hQR a j h

theorem Ends.and {r : Except Failure (α × Input)} {Q R : α → Input → Prop} (h : Ends r Q)
    (h' : Ends r R) : Ends r fun a j => Q a j ∧ R a j := by
  rcases r with (f | c) | ⟨a, j⟩
  · trivial
  · exact h
  · exact ⟨h, h'⟩

theorem Ends.bind {p : Parser α} {f : α → Parser β} {i : Input} {R : α → Input → Prop}
    {S : β → Input → Prop} (h : Ends (p i) R) (hf : ∀ a j, R a j → Ends (f a j) S) :
    Ends ((p >>= f) i) S := by
  show Ends (Except.bind (p i) fun x => f x.1 x.2) S
  rcases hp : p i with (e | c) | ⟨a, j⟩
  · trivial
  · rw [hp] at h
    exact h
  · rw [hp] at h
    exact hf a j h

/-- The value of the first reader may be used in the second. -/
theorem Gives.bind {R : α → Prop} {p : Parser α} {f : α → Parser β} (hp : Gives L R p)
    (hf : ∀ a, R a → Gives L Q (f a)) : Gives L Q (p >>= f) :=
  ⟨fun i hi => (hp.ends i hi).bind fun a j h => (hf a h.2).ends j h.1⟩

/-- After a safe reader, whatever it gave. -/
theorem Gives.step {p : Parser α} {f : α → Parser β} [hp : Safe L p]
    (hf : ∀ a, Gives L Q (f a)) : Gives L Q (p >>= f) :=
  hp.bind fun a _ => hf a

theorem Gives.pure {b : β} (h : Q b) : Gives L Q (pure b : Parser β) := ⟨fun _ hi => ⟨hi, h⟩⟩

theorem Gives.get_bind {f : Input → Parser β} (hf : ∀ s : Input, s.Inside L → Gives L Q (f s)) :
    Gives L Q (get >>= f) :=
  ⟨fun i hi => (hf i hi).ends i hi⟩

theorem Gives.mono {R : β → Prop} {p : Parser β} (h : Gives L Q p) (hQR : ∀ b, Q b → R b) :
    Gives L R p :=
  ⟨fun i hi => (h.ends i hi).mono fun b _ hb => ⟨hb.1, hQR b hb.2⟩⟩

theorem Gives.safe {p : Parser β} (h : Gives L Q p) : Safe L p := h.mono fun _ _ => trivial

/-- A reader that is safe on every source only reads on from where it starts. -/
theorem Gives.shrinks {p : Parser β} (hp : ∀ L' : Source, Gives L' Q p) {i : Input}
    (hi : i.Inside L) :
    Ends (p i) fun b j => openedAll j.tokens <:+ openedAll i.tokens ∧ Q b :=
  ((hp (L.part hi.suffix.isInfix)).ends i ⟨List.suffix_refl _⟩).mono fun _ _ h =>
    ⟨h.1.suffix, h.2⟩

instance safe_pure (b : β) : Safe L (pure b : Parser β) := Gives.pure trivial

instance gives_bind (p : Parser α) (f : α → Parser β) [hp : Safe L p] [hf : GivesAll L Q f] :
    Gives L Q (p >>= f) :=
  hp.bind fun a _ => hf.all a

instance (priority := high) gives_get_bind (f : Input → Parser β)
    [hf : ∀ s : L.Place, Gives L Q (f s.1)] : Gives L Q (get >>= f) :=
  Gives.get_bind fun s hs => hf ⟨s, hs⟩

instance safe_get : Safe L (get : Parser Input) := ⟨fun _ hi => ⟨hi, trivial⟩⟩

instance safe_set (s : Input) [hs : s.Inside L] : Safe L (set s : Parser PUnit) :=
  ⟨fun _ _ => ⟨hs, trivial⟩⟩

theorem Gives.ite {c : Prop} [Decidable c] {p q : Parser β} (hp : c → Gives L Q p)
    (hq : ¬ c → Gives L Q q) : Gives L Q (if c then p else q) := by
  split
  · next h => exact hp h
  · next h => exact hq h

/-- After a test that is read, one reader or another. -/
theorem Gives.test {p : Parser α} {c : α → Prop} [∀ a, Decidable (c a)] {yes no : Parser β}
    [Safe L p] (hyes : Gives L Q yes) (hno : Gives L Q no) :
    Gives L Q (p >>= fun a => if c a then yes else no) :=
  .step fun _ => .ite (fun _ => hyes) fun _ => hno

instance gives_ite (c : Prop) [Decidable c] (p q : Parser β) [hp : Gives L Q p]
    [hq : Gives L Q q] : Gives L Q (if c then p else q) :=
  .ite (fun _ => hp) fun _ => hq

instance (priority := low) givesAll_of (f : α → Parser β) [hf : ∀ a, Gives L Q (f a)] :
    GivesAll L Q f :=
  ⟨hf⟩

instance givesAll_prod (f : α × δ → Parser β) [hf : ∀ a d, Gives L Q (f (a, d))] :
    GivesAll L Q f :=
  ⟨fun x => hf x.1 x.2⟩

instance (priority := high) givesAll_prod_prod (f : (α × γ) × δ → Parser β)
    [hf : ∀ a c d, Gives L Q (f ((a, c), d))] : GivesAll L Q f :=
  ⟨fun x => hf x.1.1 x.1.2 x.2⟩

instance (priority := high) givesAll_triple (f : α × γ × δ → Parser β)
    [hf : ∀ a c d, Gives L Q (f (a, c, d))] : GivesAll L Q f :=
  ⟨fun x => hf x.1 x.2.1 x.2.2⟩

instance givesAll_option (f : Option α → Parser β) [hnone : Gives L Q (f none)]
    [hsome : ∀ a, Gives L Q (f (some a))] : GivesAll L Q f := by
  constructor
  rintro (_ | a)
  · exact hnone
  · exact hsome a

/-! ## Failing and looking ahead -/

instance gives_fail (cause : Cause) : Gives L Q (fail cause) := ⟨fun _ _ => trivial⟩

instance gives_failAt (span : Span) (cause : Cause) : Gives L Q (failAt span cause) :=
  ⟨fun _ _ => trivial⟩

instance gives_failExpected (wanted : List Wanted) : Gives L Q (failExpected wanted) :=
  ⟨fun _ _ => trivial⟩

instance gives_failPhrase (phrase : String) : Gives L Q (failPhrase phrase) :=
  ⟨fun _ _ => trivial⟩

instance gives_failUnexpected : Gives L Q failUnexpected := by
  constructor
  intro i _
  unfold failUnexpected
  split <;> trivial

instance safe_peek (test : List Token → Bool) : Safe L (peek test) := ⟨fun _ hi => ⟨hi, trivial⟩⟩

instance safe_peek2 (test : List Token → Bool) : Safe L (peek2 test) := safe_peek _

instance safe_peek3 (test : List Token → Bool) : Safe L (peek3 test) := safe_peek _

instance safe_peekKw (text : String) : Safe L (peekKw text) := safe_peek _

instance safe_peekOp (text : String) : Safe L (peekOp text) := safe_peek _

instance safe_peekGroup (d : Delimiter) : Safe L (peekGroup d) := safe_peek _

instance safe_peekName : Safe L peekName := safe_peek _

theorem ends_atEnd (i : Input) : Ends (atEnd i) fun _ j => j = i := rfl

instance safe_atEnd : Safe L atEnd := ⟨fun _ hi => ⟨hi, trivial⟩⟩

/-- What is tried is not consumed; on success the rest of the input is inside too. -/
theorem gives_attempt? {p : Parser β} (hp : Gives L Q p) :
    Gives L (fun o => ∀ b rest, o = some (b, rest) → Q b ∧ rest.Inside L) (attempt? p) := by
  constructor
  intro i hi
  have h := hp.ends i hi
  unfold attempt?
  rcases hpi : p i with (e | c) | ⟨b, j⟩
  · exact ⟨hi, by rintro b rest ⟨⟩⟩
  · rw [hpi] at h
    exact h
  · rw [hpi] at h
    refine ⟨hi, ?_⟩
    intro b' rest heq
    cases heq
    exact ⟨h.2, h.1⟩

instance safe_attempt? (p : Parser β) [hp : Safe L p] : Safe L (attempt? p) :=
  (gives_attempt? hp).safe

instance (priority := high) gives_attempt?_bind (p : Parser α) (f : Option (α × Input) → Parser β)
    [hp : Safe L p] [hnone : Gives L Q (f none)]
    [hsome : ∀ (a : α) (rest : L.Place), Gives L Q (f (some (a, rest.1)))] :
    Gives L Q (attempt? p >>= f) := by
  refine (gives_attempt? hp).bind ?_
  rintro (_ | ⟨a, rest⟩) ho
  · exact hnone
  · exact hsome a ⟨rest, (ho a rest rfl).2⟩

instance gives_lookAhead (p : Parser β) [hp : Gives L Q p] : Gives L Q (lookAhead p) := by
  constructor
  intro i hi
  have h := hp.ends i hi
  unfold lookAhead
  rcases hpi : p i with (e | c) | ⟨b, j⟩
  · trivial
  · rw [hpi] at h
    exact h
  · rw [hpi] at h
    exact ⟨hi, h.2⟩

end Rules

/-! ## Single tokens -/

section Tokens

variable {L : Source}

/-- A keyword is read from the front. -/
theorem ends_kw (text : String) (i : Input) :
    Ends (kw text i) fun _ j => ∃ name : Ident, name.is text = true ∧
      openedAll i.tokens = .ident name :: openedAll j.tokens := by
  unfold kw
  cases h : Front.ident? i.tokens with
  | none => trivial
  | some found =>
      obtain ⟨name, rest⟩ := found
      dsimp only
      split
      · next hname => exact ⟨name, hname, Front.openedAll_ident? h⟩
      · trivial

instance safe_kw (text : String) : Safe L (kw text) := by
  refine ⟨fun i hi => (ends_kw text i).mono ?_⟩
  rintro _ j ⟨name, -, hopened⟩
  exact ⟨⟨.trans (hopened ▸ List.suffix_cons _ _) hi.suffix⟩, trivial⟩

theorem gives_anyIdent : Gives L (fun i => i.hasForm = true) anyIdent := by
  constructor
  intro i hi
  unfold anyIdent
  cases h : Front.ident? i.tokens with
  | none => trivial
  | some found =>
      obtain ⟨name, rest⟩ := found
      have hopened := Front.openedAll_ident? h
      exact ⟨hi.step (hopened ▸ List.suffix_cons _ _) i.leftover, L.hasForm (hi.mem hopened)⟩

/-- A name that is read has the form of an identifier. -/
theorem gives_name : Gives L (fun i => i.hasForm = true) name := by
  constructor
  intro i hi
  unfold name
  cases h : Front.ident? i.tokens with
  | none => trivial
  | some found =>
      obtain ⟨name, rest⟩ := found
      have hopened := Front.openedAll_ident? h
      dsimp only
      split
      · exact ⟨hi.step (hopened ▸ List.suffix_cons _ _) i.leftover, L.hasForm (hi.mem hopened)⟩
      · trivial

instance safe_anyIdent : Safe L anyIdent := gives_anyIdent.safe

instance safe_name : Safe L name := gives_name.safe

instance safe_op (text : String) : Safe L (op text) := by
  constructor
  intro i hi
  unfold op
  cases h : Front.operator? text.toList i.tokens with
  | none => trivial
  | some found =>
      obtain ⟨chars, rest⟩ := found
      exact ⟨hi.step (Front.suffix_operator? h) i.leftover, trivial⟩

instance safe_lifetime : Safe L lifetime := by
  constructor
  intro i hi
  unfold lifetime
  cases h : Front.lifetime? i.tokens with
  | none => trivial
  | some found =>
      obtain ⟨span, name, rest⟩ := found
      have hopened := Front.openedAll_lifetime? h
      refine ⟨hi.step ?_ i.leftover, trivial⟩
      rw [hopened]
      exact (List.suffix_cons _ _).trans (List.suffix_cons _ _)

instance safe_optKw (text : String) : Safe L (optKw text) := by unfold optKw; infer_instance

instance safe_optOp (text : String) : Safe L (optOp text) := by unfold optOp; infer_instance

instance safe_nameOrUnderscore : Safe L nameOrUnderscore := by
  unfold nameOrUnderscore; infer_instance

instance safe_optLifetime : Safe L optLifetime := by unfold optLifetime; infer_instance

/-- All that is left can be read. -/
theorem gives_remaining : Gives L (fun ts => ts.isReadable = true) remaining :=
  ⟨fun _ hi => ⟨⟨List.nil_suffix⟩, L.isReadable_of_infix hi.suffix.isInfix⟩⟩

instance safe_remaining : Safe L remaining := gives_remaining.safe

instance safe_anyDelimited : Safe L anyDelimited := by
  constructor
  intro i hi
  unfold anyDelimited
  split
  · next d content span rest htokens =>
      split
      · trivial
      · refine ⟨hi.step ?_ i.leftover, trivial⟩
        rw [htokens, Token.openedAll_cons]
        exact List.suffix_append _ _
  · trivial

/-! ## Literals -/

/-- The literal tokens in a literal are readable and of its kind. -/
def Lit.IsRead (found : Lit) : Prop :=
  ∀ text span, Token.literal text span ∈ found.tokens →
    Literal.isReadable text = true ∧ Literal.ofText text = found.kind

/-- At the front of a source a literal is found without a crash. -/
theorem litFront?_ok {ts : List Token} (h : openedAll ts <:+ L.tokens) :
    ∃ o, litFront? ts = .ok o ∧ ∀ found rest, o = some (found, rest) →
      openedAll rest <:+ openedAll ts ∧ found.IsRead := by
  unfold litFront?
  cases hliteral : Front.literal? ts with
  | some front =>
      obtain ⟨text, span, rest⟩ := front
      have hopened := Front.openedAll_literal? hliteral
      have hreadable : Literal.isReadable text = true :=
        L.isReadable_literal (h.subset (hopened ▸ List.mem_cons_self ..))
      have hknown : Literal.ofText text ≠ .unknown := by
        simpa [Literal.isKnown] using (Bool.and_eq_true_iff.mp hreadable).2
      dsimp only
      split
      · next hunknown => exact absurd hunknown hknown
      · refine ⟨_, rfl, ?_⟩
        intro found rest' heq
        cases heq
        refine ⟨hopened ▸ List.suffix_cons _ _, ?_⟩
        intro text' span' hmem
        cases List.mem_singleton.mp hmem
        exact ⟨hreadable, rfl⟩
  | none =>
      cases hident : Front.ident? ts with
      | some front =>
          obtain ⟨i, rest⟩ := front
          have hopened := Front.openedAll_ident? hident
          dsimp only
          split
          · refine ⟨_, rfl, ?_⟩
            intro found rest' heq
            cases heq
            refine ⟨hopened ▸ List.suffix_cons _ _, ?_⟩
            intro text span hmem
            cases List.mem_singleton.mp hmem
          · exact ⟨_, rfl, by rintro found rest ⟨⟩⟩
      | none =>
          dsimp only
          split
          · next heq => cases heq
          · next sp after _ hpunct =>
              have hminus := Front.openedAll_punct? hpunct
              cases hafter : Front.literal? after with
              | none => exact ⟨_, rfl, by rintro found rest ⟨⟩⟩
              | some front =>
                  obtain ⟨text, span, rest⟩ := front
                  have hopened := Front.openedAll_literal? hafter
                  have hsuffix : openedAll rest <:+ openedAll ts := by
                    rw [hminus, hopened]
                    exact (List.suffix_cons _ _).trans (List.suffix_cons _ _)
                  have hmem : Token.literal text span ∈ openedAll ts := by
                    rw [hminus, hopened]
                    exact List.mem_cons_of_mem _ (List.mem_cons_self ..)
                  have hreadable := L.isReadable_literal (h.subset hmem)
                  dsimp only
                  split
                  all_goals
                    refine ⟨_, rfl, ?_⟩
                    intro found rest' heq
                    cases heq
                  all_goals
                    refine ⟨hsuffix, ?_⟩
                    intro text' span' hmem
                    rcases List.mem_cons.mp hmem with hmem | hmem
                    · cases hmem
                    · cases List.mem_singleton.mp hmem
                      exact ⟨hreadable, by assumption⟩
          · exact ⟨_, rfl, by rintro found rest ⟨⟩⟩

instance safe_peekLit : Safe L peekLit := by
  constructor
  intro i hi
  obtain ⟨o, hfront, -⟩ := litFront?_ok hi.suffix
  unfold peekLit
  rw [hfront]
  exact ⟨hi, trivial⟩

theorem gives_lit : Gives L Lit.IsRead lit := by
  constructor
  intro i hi
  obtain ⟨o, hfront, hrest⟩ := litFront?_ok hi.suffix
  unfold lit
  rw [hfront]
  rcases o with _ | ⟨found, rest⟩
  · trivial
  · exact ⟨hi.step (hrest found rest rfl).1 i.leftover, (hrest found rest rfl).2⟩

instance safe_lit : Safe L lit := gives_lit.safe

instance safe_peekText : Safe L peekText := by
  constructor
  intro i hi
  obtain ⟨o, hfront, -⟩ := litFront?_ok hi.suffix
  unfold peekText
  rw [hfront]
  split
  · exact ⟨hi, trivial⟩
  · exact ⟨hi, trivial⟩
  · next heq => cases heq

end Tokens

/-! ## Groups -/

section Groups

variable {α β : Type} {L : Source} {Q : α → Prop} {d : Delimiter} {p : Parser α}

/-- The group of this kind that stands at the front. -/
def enter? (d : Delimiter) (ts : List Token) : Option (List Token × Span × List Token) :=
  match d with
  | .invisible => Front.invisible? ts
  | _ => Front.group? d ts

theorem enter?_of_visible (hd : d ≠ .invisible) (ts : List Token) :
    enter? d ts = Front.group? d ts := by
  cases d <;> first | rfl | exact absurd rfl hd

/-- The content of a group in a source can be read, and what follows the group is the
    rest of the source. -/
theorem isReadable_of_enter? {ts content rest : List Token} {span : Span}
    (hts : openedAll ts <:+ L.tokens) (h : enter? d ts = some (content, span, rest)) :
    Tokens.isReadable content = true ∧ openedAll rest <:+ openedAll ts := by
  by_cases hd : d = .invisible
  · subst hd
    have hopened := Front.openedAll_invisible? h
    refine ⟨L.isReadable_of_infix ?_, hopened ▸ List.suffix_append _ _⟩
    exact (hopened ▸ List.prefix_append _ _ : openedAll content <+: openedAll ts).isInfix.trans
      hts.isInfix
  · rw [enter?_of_visible hd] at h
    have hopened := Front.openedAll_group? h
    refine ⟨L.isReadable_content (hts.subset (hopened ▸ List.mem_cons_self ..)) hd, ?_⟩
    exact hopened ▸ List.suffix_cons _ _

/-- To enter a group is to find it and to read inside it. -/
theorem entered_eq (i : Input) :
    entered d p i = (enter? d i.tokens).elim (failPhrase (groupName d) i) fun found =>
      inside i found.1 found.2.2 do return (← p, found.2.1) := by
  cases d
  all_goals
    unfold entered
    dsimp only [enter?]
    split
    · next h => rw [h]; rfl
    · next h => rw [h]; rfl

theorem ends_inside {i : Input} {content rest : List Token}
    (hcontent : Tokens.isReadable content = true) (hrest : openedAll rest <:+ L.tokens)
    (hp : Gives (Source.ofTokens content hcontent) Q p) :
    Ends (inside i content rest p) fun x j => j.Inside L ∧ Q x.1 := by
  have hends : ∀ (start : Input) r, start.tokens = content → p start = r →
      Ends r fun a _ => Q a := by
    intro start r hstart hr
    subst hr hstart
    exact (hp.ends start ⟨List.suffix_refl _⟩).mono fun a _ h => h.2
  unfold inside
  dsimp only
  split
  · next a inner hresult => exact ⟨⟨hrest⟩, hends _ _ rfl hresult⟩
  · next e hresult =>
      have h := hends _ _ rfl hresult
      cases e with
      | fault f => trivial
      | crash c => exact h

/-- A group is entered safely if its content is read safely. -/
theorem ends_entered {i : Input} (hi : i.Inside L)
    (hp : ∀ content span rest, enter? d i.tokens = some (content, span, rest) →
      ∀ hcontent : Tokens.isReadable content = true,
        Gives (Source.ofTokens content hcontent) Q p) :
    Ends (entered d p i) fun x j => j.Inside L ∧ Q x.1.1 := by
  rw [entered_eq]
  cases hfound : enter? d i.tokens with
  | none => trivial
  | some found =>
      obtain ⟨content, span, rest⟩ := found
      obtain ⟨hcontent, hrest⟩ := isReadable_of_enter? hi.suffix hfound
      have hcontents : Gives (Source.ofTokens content hcontent) (fun x : α × Span => Q x.1)
          (do return (← p, span)) :=
        (hp content span rest hfound hcontent).bind fun a ha => Gives.pure ha
      exact ends_inside hcontent (hrest.trans hi.suffix) hcontents

instance safe_entered [hp : ∀ L' : Source, Safe L' p] : Safe L (entered d p) :=
  ⟨fun _ hi => ends_entered hi fun _ _ _ _ _ => hp _⟩

instance safe_remember (left : Option Span) : Safe L (remember left) :=
  ⟨fun _ hi => ⟨⟨hi.suffix⟩, trivial⟩⟩

/-- What the content of a group gives, the group gives. -/
theorem gives_delimited (hp : ∀ L' : Source, Gives L' Q p) :
    Gives L (fun x => Q x.1) (delimited d p) := by
  have hentered : Gives L (fun x => Q x.1.1) (entered d p) :=
    ⟨fun _ hi => ends_entered hi fun _ _ _ _ _ => hp _⟩
  refine hentered.bind ?_
  rintro ⟨found, left⟩ hfound
  exact (safe_remember left).bind fun _ _ => Gives.pure hfound

instance safe_delimited [hp : ∀ L' : Source, Safe L' p] : Safe L (delimited d p) :=
  gives_delimited hp

end Groups

/-! ## Repetition -/

section Repetition

variable {α β : Type} {L : Source} {Q : α → Prop}

/-- Each round gives an element with a property, so all have it. -/
theorem gives_many {p : Parser (Option α)} (hp : Gives L (fun o => ∀ a, o = some a → Q a) p) :
    Gives L (fun as => ∀ a ∈ as, Q a) (many p) := by
  have hwithin : ∀ fuel, Gives L (fun as => ∀ a ∈ as, Q a) (manyWithin p fuel) := by
    intro fuel
    induction fuel with
    | zero => exact gives_fail _
    | succ fuel ih =>
        refine hp.bind ?_
        rintro (_ | a) ho
        · exact Gives.pure (List.forall_mem_nil _)
        · exact ih.bind fun as has => Gives.pure (List.forall_mem_cons.mpr ⟨ho a rfl, has⟩)
  exact ⟨fun i hi => (hwithin _).ends i hi⟩

instance safe_many (p : Parser (Option α)) [hp : Safe L p] : Safe L (many p) := by
  have h : Gives L (fun o => ∀ a : α, o = some a → True) p := hp.mono fun _ _ _ _ => trivial
  exact (gives_many h).safe

instance safe_iterate (step : α → Parser (Option α)) (a : α) [hstep : ∀ a, Safe L (step a)] :
    Safe L (iterate step a) := by
  have hwithin : ∀ fuel a, Safe L (iterateWithin step fuel a) := by
    intro fuel
    induction fuel with
    | zero => exact fun a => gives_fail _
    | succ fuel ih =>
        intro a
        refine (hstep a).bind ?_
        rintro (_ | next) -
        · exact safe_pure a
        · exact ih next
  exact ⟨fun i hi => (hwithin _ a).ends i hi⟩

/-- Each value of a separated sequence has the property that one value has. -/
theorem gives_separated {done more : List Token → Bool} {item : Parser α}
    {separator : Parser Tokens} (hitem : Gives L Q item) (hseparator : Safe L separator) :
    Gives L (fun s => ∀ v ∈ s, Q v.1) (separated done more item separator) := by
  have hwithin : ∀ fuel,
      Gives L (fun s => ∀ v ∈ s, Q v.1) (separatedWithin done more item separator fuel) := by
    intro fuel
    induction fuel with
    | zero => exact gives_fail _
    | succ fuel ih =>
        refine (safe_peek done).bind fun ended _ => ?_
        cases ended with
        | true => exact Gives.pure (List.forall_mem_nil _)
        | false =>
            refine hitem.bind fun value hvalue => ?_
            refine (safe_peek more).bind fun goesOn _ => ?_
            cases goesOn with
            | true =>
                refine hseparator.bind fun sep _ => ih.bind fun rest hrest => ?_
                exact Gives.pure (List.forall_mem_cons.mpr ⟨hvalue, hrest⟩)
            | false => exact Gives.pure (List.forall_mem_singleton.mpr hvalue)
  exact ⟨fun i hi => (hwithin _).ends i hi⟩

instance safe_separated (done more : List Token → Bool) (item : Parser α)
    (separator : Parser Tokens) [hitem : Safe L item] [hseparator : Safe L separator] :
    Safe L (separated done more item separator) :=
  (gives_separated hitem hseparator).safe

/-- Each value of a list with commas has the property that one value has. -/
theorem gives_commaList {item : Parser α} (hitem : Gives L Q item) :
    Gives L (fun s => ∀ v ∈ s, Q v.1) (commaList item) :=
  gives_separated hitem (safe_op ",")

instance safe_commaList (item : Parser α) [hitem : Safe L item] : Safe L (commaList item) :=
  (gives_commaList hitem).safe

instance safe_recording (p : Parser α) [hp : Safe L p] : Safe L (recording p) := by
  unfold recording; infer_instance

instance safe_consumedSince (start : Input) : Safe L (consumedSince start) := by
  unfold consumedSince; infer_instance

/-- A reader for each element of a list, one after the other. -/
theorem safe_mapM {f : α → Parser β} {as : List α} (h : ∀ a ∈ as, Safe L (f a)) :
    Safe L (as.mapM f) := by
  induction as with
  | nil => rw [List.mapM_nil]; infer_instance
  | cons a as ih =>
      rw [List.mapM_cons]
      have hhead := h a (List.mem_cons_self ..)
      have htail := ih fun b hb => h b (List.mem_cons_of_mem a hb)
      infer_instance

/-- What a whole sequence gives has the property that its reader gives. -/
theorem property_of_run {p : Parser α} {ts : Tokens} (h : ts.isReadable = true)
    (hp : Gives (Source.ofTokens ts h) Q p) {a : α} (ha : run p ts = .ok a) : Q a := by
  have hends := hp.ends { tokens := ts } ⟨List.suffix_refl _⟩
  unfold run at ha
  rcases hresult : p { tokens := ts } with e | ⟨b, rest⟩
  · rw [hresult] at ha
    cases ha
  · rw [hresult] at ha hends
    dsimp only at ha
    split at ha
    · cases ha
    · split at ha
      · cases ha
      · exact Except.ok.inj ha ▸ hends.2

/-- A whole sequence is read without a crash. -/
theorem run_ne_crash {p : Parser α} {ts : Tokens} (h : ts.isReadable = true)
    (hp : Safe (Source.ofTokens ts h) p) (c : Crash) : run p ts ≠ .error (.crash c) := by
  have hends := hp.ends { tokens := ts } ⟨List.suffix_refl _⟩
  unfold run
  intro hcrash
  rcases hresult : p { tokens := ts } with (f | c') | ⟨b, rest⟩
  · rw [hresult] at hcrash
    cases hcrash
  · rw [hresult] at hends
    exact hends
  · rw [hresult] at hcrash
    dsimp only at hcrash
    split at hcrash
    · cases hcrash
    · split at hcrash <;> cases hcrash

end Repetition

/-! ## Attributes and visibilities -/

section Attributes

variable {L : Source}

instance safe_plainPath : Safe L plainPath := by unfold plainPath; infer_instance

/-- The arguments of an attribute that is read can be read in their turn. -/
theorem gives_outerAttr : Gives L (fun a => a.arguments.isReadable = true) outerAttr := by
  unfold outerAttr
  refine (safe_op "#").bind fun pound _ => ?_
  have hinside : ∀ L' : Source, Gives L' (fun x : PlainPath × Tokens => x.2.isReadable = true)
      (do return (← plainPath, ← remaining)) := fun L' =>
    safe_plainPath.bind fun path _ => gives_remaining.bind fun arguments h => Gives.pure h
  refine (gives_delimited hinside).bind ?_
  rintro ⟨⟨path, arguments⟩, span⟩ h
  exact Gives.pure h

instance safe_outerAttr : Safe L outerAttr := gives_outerAttr.safe

theorem gives_outerAttrs :
    Gives L (fun attrs => ∀ a ∈ attrs, a.arguments.isReadable = true) outerAttrs := by
  refine gives_many ((safe_peekOp "#").bind fun found _ => ?_)
  cases found with
  | true =>
      refine gives_outerAttr.bind fun attr hattr => Gives.pure ?_
      rintro a ⟨⟩
      exact hattr
  | false => exact Gives.pure (by rintro a ⟨⟩)

instance safe_outerAttrs : Safe L outerAttrs := gives_outerAttrs.safe

instance safe_innerAttr : Safe L innerAttr := by unfold innerAttr; infer_instance

instance safe_innerAttrs : Safe L innerAttrs := by unfold innerAttrs; infer_instance

instance safe_restriction : Safe L restriction := by unfold restriction; infer_instance

instance safe_publicVisibility : Safe L publicVisibility := by
  unfold publicVisibility
  refine (safe_kw "pub").bind fun keyword _ => (safe_peekGroup _).bind fun parens _ => ?_
  cases parens with
  | true =>
      refine Gives.get_bind fun before hbefore => safe_delimited.bind ?_
      rintro ⟨_ | ⟨inside, path⟩, span⟩ -
      · exact (safe_set before).bind fun _ _ => safe_pure _
      · exact safe_pure _
  | false => exact safe_pure _

instance safe_written : Safe L visibility.written := by unfold visibility.written; infer_instance

instance safe_visibility : Safe L visibility := by
  constructor
  intro i hi
  unfold visibility
  split
  · next span rest hfound =>
      refine ⟨hi.step ?_ i.leftover, trivial⟩
      rw [Front.openedAll_invisible? hfound]
      exact List.suffix_append _ _
  · exact safe_written.ends i hi

/-- The arguments of an attribute are read without a crash. -/
theorem attrArguments_ne_crash {α : Type} {a : Attribute} {p : Parser α}
    (ha : a.arguments.isReadable = true) [∀ L' : Source, Safe L' p] (c : Crash) :
    attrArguments a p ≠ .error (.crash c) := by
  unfold attrArguments
  refine run_ne_crash ha (.test inferInstance (.test inferInstance (.step fun _ => ?_))) c
  -- the group is passed over once, and read only if it is all there is
  extract_lets group
  have hgroup (d : Delimiter) : Safe (Source.ofTokens a.arguments ha) (group d) := by
    unfold group
    infer_instance
  clear_value group
  infer_instance

end Attributes

end Parser

end DeclMacros
