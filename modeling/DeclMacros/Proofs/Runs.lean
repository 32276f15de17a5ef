import DeclMacros.Proofs.Stripping
import DeclMacros.Sample.Declaration

/-! # Runs of macros, with and without stripping

    The macros on an item run from the outermost on, and each step removes the
    markers that no macro still attached reads.  The attributes alone say which
    macro runs when, and which attributes are left to the item then: that is the
    schedule (`Turn.schedule`).

    The invariant of a run (`stepsWithin_without`) is that the current item is
    the original one, with the attributes that are left, without some kinds of
    markers that are all consumed.  The macro whose turn it is was still among
    the attributes when those markers went, so it reads none of them, and
    `expand_without` applies.  Hence the main theorem: every step of a run says
    what the same macro says about the declaration as it was written. -/

set_option autoImplicit false

namespace DeclMacros

/-! ## The attributes that attach macros -/

/-- The macro that an attribute attaches. -/
def Attribute.attached? (a : Attribute) : Option AttachedMacro :=
  a.path.last?.bind fun name => AttachedMacro.ofName? name.display

/-- A macro is found under its name only. -/
theorem AttachedMacro.ofName?_eq_some_iff {name : String} {m : AttachedMacro} :
    AttachedMacro.ofName? name = some m ↔ m.name = name := by
  constructor
  · intro h
    unfold AttachedMacro.ofName? at h
    have hfound := List.find?_some h
    exact of_decide_eq_true hfound
  · rintro rfl
    cases m <;> decide

/-- An attribute attaches a macro exactly when it goes by its name. -/
theorem Attribute.attached?_eq_some_iff {a : Attribute} {m : AttachedMacro} :
    a.attached? = some m ↔ a.named m.name = true := by
  unfold Attribute.attached? Attribute.named
  cases a.path.last? with
  | none => exact ⟨fun h => (nomatch h), fun h => (nomatch h)⟩
  | some i =>
      show AttachedMacro.ofName? i.display = some m ↔ (i.display == m.name) = true
      rw [AttachedMacro.ofName?_eq_some_iff, beq_iff_eq]
      exact eq_comm

/-- A macro is among attributes exactly when one of them attaches it. -/
theorem AttachedMacro.isAmong_iff {m : AttachedMacro} {attrs : List Attribute} :
    m.isAmong attrs = true ↔ ∃ a ∈ attrs, a.attached? = some m := by
  unfold AttachedMacro.isAmong
  rw [List.any_eq_true]
  constructor
  · rintro ⟨a, ha, hname⟩
    exact ⟨a, ha, Attribute.attached?_eq_some_iff.mpr hname⟩
  · rintro ⟨a, ha, hname⟩
    exact ⟨a, ha, Attribute.attached?_eq_some_iff.mp hname⟩

/-- A marker is consumed exactly when no macro among the attributes reads it. -/
theorem Marker.isConsumed_iff {k : Marker} {attrs : List Attribute} :
    k.isConsumed attrs = true ↔ ∀ m ∈ k.consumers, m.isAmong attrs = false := by
  unfold Marker.isConsumed
  rw [Bool.not_eq_true', List.any_eq_false]
  constructor
  · intro h m hm
    exact Bool.eq_false_iff.mpr (h m hm)
  · intro h m hm
    exact Bool.eq_false_iff.mp (h m hm)

/-- A marker that is consumed stays so when attributes go. -/
theorem Marker.isConsumed_of_subset {k : Marker} {attrs rest : List Attribute}
    (hsub : rest ⊆ attrs) (h : k.isConsumed attrs = true) : k.isConsumed rest = true := by
  rw [Marker.isConsumed_iff] at h ⊢
  intro m hm
  rw [Bool.eq_false_iff]
  intro hamong
  obtain ⟨a, ha, hattached⟩ := AttachedMacro.isAmong_iff.mp hamong
  have hbefore : m.isAmong attrs = true := AttachedMacro.isAmong_iff.mpr ⟨a, hsub ha, hattached⟩
  rw [h m hm] at hbefore
  exact Bool.noConfusion hbefore

/-! ## The schedule of a run -/

/-- A turn of a run: the macro, the attribute that attaches it, and the
    attributes that are left to the item. -/
structure Turn where
  attached : AttachedMacro
  attr : Attribute
  remaining : List Attribute

namespace Turn

/-- The turns that a list of attributes stands for, where the attributes in
    `passed` come before it and attach nothing. -/
def scheduleAfter (passed : List Attribute) : List Attribute → List Turn
  | [] => []
  | a :: rest =>
    match a.attached? with
    | some m => ⟨m, a, passed ++ rest⟩ :: scheduleAfter passed rest
    | none => scheduleAfter (passed ++ [a]) rest

/-- The turns of the macros among the attributes, the outermost first. -/
def schedule (attrs : List Attribute) : List Turn := scheduleAfter [] attrs

/-- Attributes that attach nothing are passed by. -/
theorem scheduleAfter_append {pre : List Attribute} (hpre : ∀ b ∈ pre, b.attached? = none)
    (passed post : List Attribute) :
    scheduleAfter passed (pre ++ post) = scheduleAfter (passed ++ pre) post := by
  induction pre generalizing passed with
  | nil => rw [List.nil_append, List.append_nil]
  | cons b pre ih =>
      rw [List.cons_append, scheduleAfter, hpre b (List.mem_cons_self ..)]
      show scheduleAfter (passed ++ [b]) (pre ++ post) = _
      rw [ih (fun c hc => hpre c (List.mem_cons_of_mem b hc)), List.append_assoc]
      rfl

/-- Attributes that attach nothing make no turns. -/
theorem schedule_eq_nil {attrs : List Attribute} (h : ∀ b ∈ attrs, b.attached? = none) :
    schedule attrs = [] := by
  have happend := scheduleAfter_append h [] []
  rw [List.append_nil] at happend
  exact happend

/-- The first attribute that attaches a macro makes the first turn. -/
theorem schedule_cons {pre post : List Attribute} {a : Attribute} {m : AttachedMacro}
    (hpre : ∀ b ∈ pre, b.attached? = none) (ha : a.attached? = some m) :
    schedule (pre ++ a :: post) = ⟨m, a, pre ++ post⟩ :: schedule (pre ++ post) := by
  unfold schedule
  rw [scheduleAfter_append hpre, scheduleAfter_append hpre, scheduleAfter, ha]
  rfl

end Turn

/-- The first attribute is passed by if it attaches nothing. -/
theorem AttachedMacro.split?_cons (a : Attribute) (rest : List Attribute) :
    AttachedMacro.split? (a :: rest) = a.attached?.elim
      ((AttachedMacro.split? rest).map fun r => (r.1, r.2.1, a :: r.2.2))
      (fun m => some (m, a, rest)) := by
  rw [AttachedMacro.split?]
  cases ha : a.attached? with
  | some m =>
      rw [show (a.path.last?.bind fun name => AttachedMacro.ofName? name.display) = some m from ha]
      rfl
  | none =>
      rw [show (a.path.last?.bind fun name => AttachedMacro.ofName? name.display) = none from ha]
      rfl

/-- If no macro runs next, no attribute attaches one. -/
theorem AttachedMacro.attached?_of_split?_none {attrs : List Attribute}
    (h : AttachedMacro.split? attrs = none) : ∀ b ∈ attrs, b.attached? = none := by
  induction attrs with
  | nil => exact List.forall_mem_nil _
  | cons a rest ih =>
      rw [AttachedMacro.split?_cons] at h
      cases ha : a.attached? with
      | some m =>
          rw [ha] at h
          cases h
      | none =>
          rw [ha] at h
          have hrest : AttachedMacro.split? rest = none := Option.map_eq_none_iff.mp h
          intro b hb
          rcases List.mem_cons.mp hb with rfl | hmem
          · exact ha
          · exact ih hrest b hmem

/-- The macro that runs next is the first one among the attributes, and the
    others are left as they are. -/
theorem AttachedMacro.split?_eq_some {attrs rest : List Attribute} {m : AttachedMacro}
    {a : Attribute} (h : AttachedMacro.split? attrs = some (m, a, rest)) :
    ∃ pre post, attrs = pre ++ a :: post ∧ rest = pre ++ post ∧ a.attached? = some m
      ∧ ∀ b ∈ pre, b.attached? = none := by
  induction attrs generalizing rest with
  | nil => cases h
  | cons b tail ih =>
      rw [AttachedMacro.split?_cons] at h
      cases hb : b.attached? with
      | some k =>
          rw [hb] at h
          obtain ⟨rfl, rfl, rfl⟩ : k = m ∧ b = a ∧ tail = rest := by simpa using h
          exact ⟨[], tail, rfl, rfl, hb, List.forall_mem_nil _⟩
      | none =>
          rw [hb] at h
          obtain ⟨⟨k, found, others⟩, hsplit, heq⟩ := Option.map_eq_some_iff.mp h
          obtain ⟨rfl, rfl, rfl⟩ : k = m ∧ found = a ∧ b :: others = rest := by simpa using heq
          obtain ⟨pre, post, rfl, rfl, ha, hpre⟩ := ih hsplit
          refine ⟨b :: pre, post, rfl, rfl, ha, ?_⟩
          intro c hc
          rcases List.mem_cons.mp hc with rfl | hmem
          · exact hb
          · exact hpre c hmem

/-- Induction along a schedule: over the first attribute that attaches a macro,
    and what is left without it. -/
theorem Turn.schedule_induction {motive : List Attribute → Prop}
    (hnone : ∀ attrs, (∀ b ∈ attrs, b.attached? = none) → motive attrs)
    (hturn : ∀ pre a post m, (∀ b ∈ pre, b.attached? = none) → a.attached? = some m →
      motive (pre ++ post) → motive (pre ++ a :: post)) (attrs : List Attribute) :
    motive attrs := by
  induction hlength : attrs.length generalizing attrs with
  | zero =>
      refine hnone attrs ?_
      intro b hb
      rw [List.length_eq_zero_iff.mp hlength] at hb
      exact nomatch hb
  | succ n ih =>
      cases hsplit : AttachedMacro.split? attrs with
      | none => exact hnone attrs (AttachedMacro.attached?_of_split?_none hsplit)
      | some next =>
          obtain ⟨m, a, rest⟩ := next
          obtain ⟨pre, post, rfl, -, ha, hpre⟩ := AttachedMacro.split?_eq_some hsplit
          refine hturn pre a post m hpre ha (ih (pre ++ post) ?_)
          simp only [List.length_append, List.length_cons] at hlength ⊢
          omega

/-- Each turn is that of an attribute on the list and of the macro it attaches. -/
theorem Turn.mem_schedule {attrs : List Attribute} {t : Turn} (h : t ∈ Turn.schedule attrs) :
    t.attr ∈ attrs ∧ t.attr.attached? = some t.attached := by
  induction attrs using Turn.schedule_induction with
  | hnone attrs hnone =>
      rw [Turn.schedule_eq_nil hnone] at h
      exact nomatch h
  | hturn pre a post m hpre ha ih =>
      rw [Turn.schedule_cons hpre ha] at h
      rcases List.mem_cons.mp h with rfl | hlater
      · exact ⟨by simp, ha⟩
      · obtain ⟨hmem, hattached⟩ := ih hlater
        refine ⟨?_, hattached⟩
        rcases List.mem_append.mp hmem with hp | hq
        · exact List.mem_append_left _ hp
        · exact List.mem_append_right _ (List.mem_cons_of_mem a hq)

/-- A macro is among attributes if the next turn is its own, or if it is among
    those left. -/
theorem AttachedMacro.isAmong_turn {pre post : List Attribute} {a : Attribute}
    {m : AttachedMacro} (ha : a.attached? = some m) (n : AttachedMacro) :
    n.isAmong (pre ++ a :: post) = true ↔ n = m ∨ n.isAmong (pre ++ post) = true := by
  rw [AttachedMacro.isAmong_iff, AttachedMacro.isAmong_iff]
  constructor
  · rintro ⟨b, hb, hn⟩
    rcases List.mem_append.mp hb with hpre | htail
    · exact .inr ⟨b, List.mem_append_left _ hpre, hn⟩
    · rcases List.mem_cons.mp htail with rfl | hpost
      · exact .inl (Option.some.inj (hn.symm.trans ha))
      · exact .inr ⟨b, List.mem_append_right _ hpost, hn⟩
  · rintro (rfl | ⟨b, hb, hn⟩)
    · exact ⟨a, by simp, ha⟩
    · rcases List.mem_append.mp hb with hpre | hpost
      · exact ⟨b, List.mem_append_left _ hpre, hn⟩
      · exact ⟨b, List.mem_append_right _ (List.mem_cons_of_mem a hpost), hn⟩

/-! ## What a step says -/

/-- What a step of a run comes to, places left out: the macro, the attributes
    that were left to the item, and the fault in the macro's arguments or what is
    generated and which problems are reported, in order. -/
structure StepContent where
  attached : AttachedMacro
  remaining : List Attribute
  outcome : Except Fault (List Generated × List Problem)

/-- What an applied macro says, places left out. -/
def Applied.content (a : Applied) : Except Fault (List Generated × List Problem) :=
  a.outcome.map Expansion.content

/-- What a step of a run comes to. -/
def MacroStep.content (s : MacroStep) : StepContent :=
  ⟨s.attached, s.given.attrs, s.applied.content⟩

/-- What a turn comes to on a declaration as it is written, from which nothing
    but attributes of the item itself is taken. -/
def Turn.contentOn (item : Item) (t : Turn) : Except Crash StepContent :=
  (t.attached.apply t.attr.argumentTokens (item.withAttrs t.remaining)).map fun applied =>
    ⟨t.attached, t.remaining, applied.content⟩

/-- What a turn can come to: the fault in the arguments of its macro, or what the
    macro says. -/
theorem Turn.contentOn_cases {item : Item} {t : Turn} {c : StepContent}
    (h : t.contentOn item = .ok c) :
    (∃ f, Attachment.read t.attr.argumentTokens t.attached.acceptsSource = .error (.fault f)
      ∧ c.outcome = .error f) ∨
    (∃ a e, Attachment.read t.attr.argumentTokens t.attached.acceptsSource = .ok a
      ∧ t.attached.expand a (item.withAttrs t.remaining) = .ok e
      ∧ c.outcome = .ok e.content) := by
  rw [Turn.contentOn, AttachedMacro.apply] at h
  cases hread : Attachment.read t.attr.argumentTokens t.attached.acceptsSource with
  | error failure =>
      simp only [hread] at h
      cases failure with
      | fault f =>
          rw [← Except.ok.inj h]
          exact .inl ⟨f, rfl, rfl⟩
      | crash crash => exact nomatch h
  | ok a =>
      simp only [hread] at h
      cases hexpand : t.attached.expand a (item.withAttrs t.remaining) with
      | error crash => rw [hexpand] at h; exact nomatch h
      | ok e =>
          rw [hexpand] at h
          rw [← Except.ok.inj h]
          exact .inr ⟨a, e, rfl, hexpand, rfl⟩

/-- The item that a macro leaves is the given one without consumed markers,
    whether or not its arguments could be read. -/
theorem AttachedMacro.apply_item {m : AttachedMacro} {arguments : Tokens} {item : Item}
    {applied : Applied} (h : m.apply arguments item = .ok applied) :
    applied.item = item.stripped := by
  unfold AttachedMacro.apply at h
  cases hread : Attachment.read arguments m.acceptsSource with
  | ok a =>
      rw [hread] at h
      cases hexpand : m.expand a item with
      | error c => simp only [hexpand] at h; exact nomatch h
      | ok e => simp only [hexpand] at h; rw [← Except.ok.inj h]
  | error failure =>
      rw [hread] at h
      cases failure with
      | fault f => rw [← Except.ok.inj h]
      | crash c => exact nomatch h

/-- An applied macro says the same without markers that it ignores. -/
theorem AttachedMacro.apply_without (m : AttachedMacro) (arguments : Tokens) {item : Item}
    {ps : List Property} (hread : item.properties = .ok ps) {gone : Marker → Bool}
    (hgone : m.Ignores item.attrs gone) :
    (m.apply arguments (item.without gone)).map Applied.content
      = (m.apply arguments item).map Applied.content := by
  have hcontent : ∀ (a : Attachment) (given : Item),
      Except.map Applied.content
          (m.expand a given >>= fun e => pure { item := given.stripped, outcome := .ok e })
        = ((m.expand a given).map Expansion.content).map .ok := by
    intro a given
    cases m.expand a given <;> rfl
  unfold AttachedMacro.apply
  cases Attachment.read arguments m.acceptsSource with
  | ok a =>
      show Except.map _ (m.expand a (item.without gone) >>= _) = Except.map _ (m.expand a item >>= _)
      rw [hcontent, hcontent, m.expand_without a hread hgone]
  | error failure =>
      cases failure with
      | fault f => rfl
      | crash c => rfl

/-! ## The invariant of a run -/

/-- A macro that was among the attributes ignores the markers that were consumed
    then, and so does what is left after it. -/
theorem AttachedMacro.ignores_of_isConsumed {m : AttachedMacro} {attrs rest : List Attribute}
    (hm : m.isAmong attrs = true) (hsub : rest ⊆ attrs) {gone : Marker → Bool}
    (hgone : ∀ k, gone k = true → k.isConsumed attrs = true) : m.Ignores rest gone := by
  intro k hk
  refine ⟨?_, Marker.isConsumed_of_subset hsub (hgone k hk)⟩
  intro hmem
  have hfalse := Marker.isConsumed_iff.mp (hgone k hk) m hmem
  rw [hm] at hfalse
  exact Bool.noConfusion hfalse

/-- **The invariant of a run.**  A run that starts from the original item with
    some attributes, without markers that are consumed under these, says at each
    turn what the macro says about the original item. -/
theorem Item.stepsWithin_without {item : Item} {ps : List Property}
    (hread : item.properties = .ok ps) (n : Nat) :
    ∀ (attrs : List Attribute) (gone : Marker → Bool),
      (item.withAttrs attrs).attrs = attrs →
      (∀ k, gone k = true → k.isConsumed attrs = true) →
      (((item.withAttrs attrs).without gone).stepsWithin n).map (List.map MacroStep.content)
        = ((Turn.schedule attrs).take n).mapM (Turn.contentOn item) := by
  induction n with
  | zero => intro attrs gone _ _; rfl
  | succ n ih =>
      intro attrs gone hattrs hgone
      unfold Item.stepsWithin
      rw [Item.attrs_without, hattrs]
      cases hsplit : AttachedMacro.split? attrs with
      | none =>
          rw [Turn.schedule_eq_nil (AttachedMacro.attached?_of_split?_none hsplit)]
          rfl
      | some next =>
          obtain ⟨m, a, rest⟩ := next
          obtain ⟨pre, post, hpost, hrest, ha, hpre⟩ := AttachedMacro.split?_eq_some hsplit
          have hsub : rest ⊆ attrs := by
            rw [hpost, hrest]
            exact List.append_subset.mpr ⟨List.subset_append_left .., fun b hb =>
              List.mem_append_right _ (List.mem_cons_of_mem a hb)⟩
          have hmem : a ∈ attrs := by rw [hpost]; simp
          have hignores : m.Ignores rest gone :=
            AttachedMacro.ignores_of_isConsumed
              (AttachedMacro.isAmong_iff.mpr ⟨a, hmem, ha⟩) hsub hgone
          -- an item without attributes of its own has no turns, so the rest fits the item
          have hfits : (item.withAttrs rest).attrs = rest := by
            have hne : (item.withAttrs attrs).attrs ≠ [] := by
              rw [hattrs]
              exact List.ne_nil_of_mem hmem
            have := Item.attrs_withAttrs hne rest
            rwa [Item.withAttrs_withAttrs] at this
          have hschedule : Turn.schedule attrs = ⟨m, a, rest⟩ :: Turn.schedule rest := by
            rw [hpost, hrest]
            exact Turn.schedule_cons hpre ha
          have hgiven : ((item.withAttrs attrs).without gone).withAttrs rest
              = (item.withAttrs rest).without gone := by
            rw [Item.withAttrs_without, Item.withAttrs_withAttrs]
          have hturn : Turn.contentOn item ⟨m, a, rest⟩
              = ((m.apply a.argumentTokens ((item.withAttrs rest).without gone)).map
                  Applied.content).map fun outcome => ⟨m, rest, outcome⟩ := by
            rw [m.apply_without a.argumentTokens
              ((Item.properties_withAttrs rest item).trans hread) (hfits.symm ▸ hignores)]
            unfold Turn.contentOn
            cases m.apply a.argumentTokens (item.withAttrs rest) <;> rfl
          rw [hschedule, List.take_succ_cons, List.mapM_cons, hturn]
          simp only [hgiven]
          cases happly : m.apply a.argumentTokens ((item.withAttrs rest).without gone) with
          | error c => rfl
          | ok applied =>
              -- what is left lacks the markers that were gone and those consumed by now
              have hitem : applied.item = (item.withAttrs rest).without
                  fun k => gone k || k.isConsumed rest := by
                rw [AttachedMacro.apply_item happly, Item.stripped_eq_without, Item.attrs_without,
                  hfits, Item.without_without]
              have hgone' : ∀ k, (gone k || k.isConsumed rest) = true
                  → k.isConsumed rest = true := by
                intro k hk
                rcases Bool.or_eq_true _ _ ▸ hk with hbefore | hnow
                · exact Marker.isConsumed_of_subset hsub (hgone k hbefore)
                · exact hnow
              rw [← ih rest _ hfits hgone', ← hitem]
              show Except.map _ (applied.item.stepsWithin n >>= _) = _
              have hremaining : ((item.withAttrs rest).without gone).attrs = rest := by
                rw [Item.attrs_without, hfits]
              cases applied.item.stepsWithin n with
              | error c => rfl
              | ok steps =>
                  show Except.ok (StepContent.mk m _ _ :: _) = Except.ok (StepContent.mk m _ _ :: _)
                  rw [hremaining]

/-- Attributes make at most as many turns as there are of them. -/
theorem Turn.length_scheduleAfter_le (passed attrs : List Attribute) :
    (Turn.scheduleAfter passed attrs).length ≤ attrs.length := by
  induction attrs generalizing passed with
  | nil => exact Nat.le_refl 0
  | cons a rest ih =>
      rw [Turn.scheduleAfter]
      cases a.attached? with
      | some m => exact Nat.succ_le_succ (ih passed)
      | none => exact Nat.le_succ_of_le (ih _)

/-- The first steps of a run, as many as are looked at. -/
theorem Item.stepsWithin_content {item : Item} {ps : List Property}
    (hread : item.properties = .ok ps) (n : Nat) :
    (item.stepsWithin n).map (List.map MacroStep.content)
      = ((Turn.schedule item.attrs).take n).mapM (Turn.contentOn item) := by
  have hrun := Item.stepsWithin_without hread n item.attrs (fun _ => false)
    (by rw [Item.withAttrs_attrs]) (fun k hk => nomatch hk)
  rwa [Item.withAttrs_attrs, Item.without_nothing] at hrun

/-- The steps of a whole run. -/
theorem Item.steps_content {item : Item} {ps : List Property}
    (hread : item.properties = .ok ps) :
    item.steps.map (List.map MacroStep.content)
      = (Turn.schedule item.attrs).mapM (Turn.contentOn item) := by
  have hlength : (Turn.schedule item.attrs).length ≤ item.attrs.length :=
    Turn.length_scheduleAfter_le [] item.attrs
  have hall := Item.stepsWithin_content hread item.attrs.length
  rwa [List.take_of_length_le hlength] at hall

/-- **Stripping is not seen.**  However many steps of a run are looked at, each of
    them comes to what the same macro comes to on the declaration as it is
    written, from which only the attributes of the macros so far were taken: the
    same code is generated and the same problems are reported, in order.  A run
    that crashes does so at the same step, with and without stripping. -/
theorem Item.steps_as_if_never_stripped (item : Item) (ps : List Property)
    (hread : item.properties = .ok ps) :
    (∀ n, (item.stepsWithin n).map (List.map MacroStep.content)
      = ((Turn.schedule item.attrs).take n).mapM (Turn.contentOn item)) ∧
    item.steps.map (List.map MacroStep.content)
      = (Turn.schedule item.attrs).mapM (Turn.contentOn item) :=
  ⟨Item.stepsWithin_content hread, Item.steps_content hread⟩

/-- A dog whose test factory runs first, so that its stub marker is gone when the
    constructor runs. -/
def Sample.puppy : Sample where
  source := "#[auto_stub] #[auto_init] struct Dog \x7b age: u32, #[default(true)] good: bool, "
    ++ "#[stub(3)] lives: u8 \x7d"

/-- The puppy's markers can be read, and both of its macros run. -/
theorem Sample.puppy_steps_as_if_never_stripped :
    ∃ item ps, Sample.puppy.item? = some item ∧ item.properties = .ok ps
      ∧ item.steps.toOption.map List.length = some 2
      ∧ item.steps.map (List.map MacroStep.content)
        = (Turn.schedule item.attrs).mapM (Turn.contentOn item) := by
  have hruns : (Sample.puppy.item?.any fun item => item.properties.isOk
      && item.steps.toOption.map List.length = some 2) = true := by decide +kernel
  obtain ⟨item, hitem, hboth⟩ := (Option.any_eq_true _ _).mp hruns
  rw [Bool.and_eq_true, decide_eq_true_eq] at hboth
  obtain ⟨hok, htwo⟩ := hboth
  cases hread : item.properties with
  | error e => rw [hread] at hok; exact nomatch hok
  | ok ps =>
      exact ⟨item, ps, hitem, hread, htwo, (Item.steps_as_if_never_stripped item ps hread).2⟩

end DeclMacros
