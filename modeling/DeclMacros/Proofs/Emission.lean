import DeclMacros.Proofs.Runs

/-! # What is left of a declaration

    Each macro emits the declaration again, for the next one to read.  This file
    says what is emitted, for items of every kind and whether or not the macro
    could read its arguments: the declaration as it was written, less the
    attributes of the macros that have run, less the markers that no macro still
    attached reads.

    A run is taken as a relation here (`Item.Emits`), so that it covers the items
    too whose attributes the executable run does not look at; the executable run
    is one case of it (`Item.emits_of_stepsWithin`).  One step is
    `Item.Remains.step`: a marker that was spent stays spent when attributes go, so
    what was removed in earlier steps is among what is removed now.  The main
    theorem follows by induction along the run. -/

set_option autoImplicit false

namespace DeclMacros

/-! ## Attributes of all kinds of items -/

namespace Item

/-- The attributes of an item, also of one that is not kept apart into its
    parts. -/
def allAttrs : Item → List Attribute
  | .other attrs _ => attrs
  | item => item.attrs

/-- The item with these attributes in place of its own. -/
def setAttrs (attrs : List Attribute) : Item → Item
  | .other _ body => .other attrs body
  | item => item.withAttrs attrs

@[simp] theorem allAttrs_without (gone : Marker → Bool) (item : Item) :
    (item.without gone).allAttrs = item.allAttrs := by
  cases item <;> rfl

@[simp] theorem setAttrs_setAttrs (first last : List Attribute) (item : Item) :
    (item.setAttrs first).setAttrs last = item.setAttrs last := by
  cases item <;> rfl

@[simp] theorem setAttrs_allAttrs (item : Item) : item.setAttrs item.allAttrs = item := by
  cases item <;> rfl

/-- Removing markers commutes with giving the item other attributes. -/
theorem setAttrs_without (gone : Marker → Bool) (attrs : List Attribute) (item : Item) :
    (item.without gone).setAttrs attrs = (item.setAttrs attrs).without gone := by
  cases item <;> rfl

/-- An item with attributes can be given others. -/
theorem allAttrs_setAttrs {item : Item} (h : item.allAttrs ≠ []) (attrs : List Attribute) :
    (item.setAttrs attrs).allAttrs = attrs := by
  cases item with
  | verbatim tokens => exact absurd rfl h
  | _ => rfl

/-- An item with attributes that a macro may be among has no others. -/
theorem eq_of_attrs_ne_nil {item : Item} (h : item.attrs ≠ []) :
    item.allAttrs = item.attrs ∧ ∀ attrs, item.setAttrs attrs = item.withAttrs attrs := by
  cases item with
  | other old body => exact absurd rfl h
  | _ => exact ⟨rfl, fun _ => rfl⟩

end Item

/-! ## Spent markers -/

/-- The attribute is a marker, and none of the macros that read it is among the
    attributes that remain. -/
def Attribute.isSpent (remaining : List Attribute) (a : Attribute) : Bool :=
  Marker.all.any fun k => a.isMarker k && k.consumers.all fun m => !m.isAmong remaining

namespace Item

/-- The item with these attributes, and without the markers that are spent then:
    on the fields of a structure and the methods of a trait, and nowhere else. -/
def leftWith (remaining : List Attribute) : Item → Item
  | .struct s => .struct { s with
      attrs := remaining
      fields := s.fields.map fun f =>
        { f with attrs := f.attrs.filter fun a => !a.isSpent remaining } }
  | .trait t => .trait { t with
      attrs := remaining
      items := t.items.map fun
        | .method m => .method { m with attrs := m.attrs.filter fun a => !a.isSpent remaining }
        | member => member }
  | item => item.setAttrs remaining

/-- The attributes that markers can be among. -/
def memberAttrs : Item → List Attribute
  | .struct s => s.fields.list.flatMap Field.attrs
  | .trait t => t.methods.flatMap TraitMethod.attrs
  | _ => []

end Item

/-- Spent markers are the consumed ones. -/
theorem Attribute.filter_not_isSpent (remaining attrs : List Attribute) :
    (attrs.filter fun a => !a.isSpent remaining)
      = Attribute.without (fun k => k.isConsumed remaining) attrs := by
  unfold Attribute.without Attribute.isSpent Marker.isConsumed Attribute.isMarker
  simp only [List.not_any_eq_all_not, Bool.and_comm]

theorem Item.leftWith_eq_without (remaining : List Attribute) (item : Item) :
    item.leftWith remaining
      = (item.setAttrs remaining).without fun k => k.isConsumed remaining := by
  cases item with
  | struct s =>
      unfold leftWith
      simp only [Attribute.filter_not_isSpent]
      rfl
  | trait t =>
      unfold leftWith
      simp only [Attribute.filter_not_isSpent]
      rfl
  | _ => rfl

/-- Stripping an item that lacks some markers already. -/
theorem Item.stripped_setAttrs_without (gone : Marker → Bool) (remaining : List Attribute)
    (item : Item) :
    ((item.setAttrs remaining).without gone).stripped
      = (item.setAttrs remaining).without fun k => gone k || k.isConsumed remaining := by
  cases item with
  | struct s => rw [Item.stripped_eq_without, Item.attrs_without, Item.without_without]; rfl
  | trait t => rw [Item.stripped_eq_without, Item.attrs_without, Item.without_without]; rfl
  | _ => rfl

/-- What is left holds nothing that is spent. -/
theorem Item.stripped_leftWith (remaining : List Attribute) (item : Item) :
    (item.leftWith remaining).stripped = item.leftWith remaining := by
  rw [Item.leftWith_eq_without, Item.stripped_setAttrs_without]
  simp only [Bool.or_self]

/-- Markers that are removed are on no field and no method. -/
theorem Item.isMarker_of_mem_memberAttrs {gone : Marker → Bool} {item : Item} {a : Attribute}
    (ha : a ∈ (item.without gone).memberAttrs) {k : Marker} (hk : gone k = true) :
    a.isMarker k = false := by
  have hkept : ∀ {attrs : List Attribute}, a ∈ Attribute.without gone attrs →
      a.isMarker k = false := by
    intro attrs hmem
    obtain ⟨-, hnot⟩ := List.mem_filter.mp hmem
    rw [Bool.eq_false_iff]
    intro hmarker
    rw [(Attribute.any_gone_iff gone a).mpr ⟨k, hk, hmarker⟩] at hnot
    exact nomatch hnot
  cases item with
  | struct s =>
      obtain ⟨f, hf, hmem⟩ := List.mem_flatMap.mp ha
      rw [Fields.list_map] at hf
      obtain ⟨f, -, rfl⟩ := List.mem_map.mp hf
      exact hkept hmem
  | trait t =>
      obtain ⟨m, hm, hmem⟩ := List.mem_flatMap.mp ha
      obtain ⟨member, -, heq⟩ := List.mem_map.mp (TraitDecl.mem_items_of_mem_methods hm)
      cases member with
      | method m' =>
          obtain rfl := TraitItem.method.inj heq
          exact hkept hmem
      | _ => exact nomatch heq
  | _ => exact nomatch ha

/-! ## Runs as a relation -/

/-- The attributes without the first `n` that attach a macro. -/
def Attribute.afterTurns : Nat → List Attribute → List Attribute
  | 0, attrs => attrs
  | _ + 1, [] => []
  | n + 1, a :: rest =>
    if a.attached?.isSome then afterTurns n rest else a :: afterTurns (n + 1) rest

/-- How many of the attributes attach a macro. -/
def Attribute.turns (attrs : List Attribute) : Nat := attrs.countP fun a => a.attached?.isSome

/-- The first macros of an item, the outermost first, emit these items.  Each gets
    the item that was emitted before it, without its own attribute. -/
inductive Item.Emits : Item → List Item → Prop where
  | nothing (item : Item) : Emits item []
  | step {item : Item} {pre post : List Attribute} {a : Attribute} {m : AttachedMacro}
      {applied : Applied} {later : List Item} :
      item.allAttrs = pre ++ a :: post → (∀ b ∈ pre, b.attached? = none) →
      a.attached? = some m →
      m.apply a.argumentTokens (item.setAttrs (pre ++ post)) = .ok applied →
      Emits applied.item later → Emits item (applied.item :: later)

namespace Attribute

variable {pre post : List Attribute} {a : Attribute} {m : AttachedMacro}

@[simp] theorem afterTurns_zero (attrs : List Attribute) : afterTurns 0 attrs = attrs := by
  cases attrs <;> rfl

/-- Attributes that attach nothing stay in front. -/
theorem afterTurns_append (hpre : ∀ b ∈ pre, b.attached? = none) (n : Nat) :
    afterTurns n (pre ++ post) = pre ++ afterTurns n post := by
  cases n with
  | zero => simp
  | succ n =>
      induction pre with
      | nil => rfl
      | cons b pre ih =>
          rw [List.cons_append, afterTurns, hpre b (List.mem_cons_self ..)]
          rw [if_neg (by simp), ih fun c hc => hpre c (List.mem_cons_of_mem b hc)]
          rfl

/-- The first turn takes the first attribute that attaches a macro. -/
theorem afterTurns_succ (hpre : ∀ b ∈ pre, b.attached? = none) (ha : a.attached? = some m)
    (n : Nat) : afterTurns (n + 1) (pre ++ a :: post) = afterTurns n (pre ++ post) := by
  rw [afterTurns_append hpre, afterTurns_append hpre, afterTurns, if_pos (by simp [ha])]

theorem turns_eq_zero {attrs : List Attribute} (h : ∀ b ∈ attrs, b.attached? = none) :
    turns attrs = 0 := by
  refine List.countP_eq_zero.mpr ?_
  intro b hb
  simp [h b hb]

theorem turns_cons (ha : a.attached? = some m) :
    turns (pre ++ a :: post) = turns (pre ++ post) + 1 := by
  simp only [turns, List.countP_append, List.countP_cons, ha, Option.isSome_some, if_true]
  omega

end Attribute

/-- An executable run emits what the relation says, and no macro is left out. -/
theorem Item.emits_of_stepsWithin {n : Nat} {item : Item} {steps : List MacroStep}
    (h : item.stepsWithin n = .ok steps) :
    item.Emits (steps.map fun step => step.applied.item)
      ∧ steps.length = min n (Attribute.turns item.attrs) := by
  induction n generalizing item steps with
  | zero =>
      obtain rfl := Except.ok.inj h
      exact ⟨.nothing item, by simp⟩
  | succ n ih =>
      rw [Item.stepsWithin] at h
      cases hsplit : AttachedMacro.split? item.attrs with
      | none =>
          simp only [hsplit] at h
          obtain rfl := Except.ok.inj h
          refine ⟨.nothing item, ?_⟩
          rw [Attribute.turns_eq_zero (AttachedMacro.attached?_of_split?_none hsplit)]
          rfl
      | some next =>
          obtain ⟨m, a, rest⟩ := next
          obtain ⟨pre, post, hattrs, rfl, ha, hpre⟩ := AttachedMacro.split?_eq_some hsplit
          simp only [hsplit] at h
          have hne : item.attrs ≠ [] := by
            rw [hattrs]
            simp
          obtain ⟨hall, hset⟩ := Item.eq_of_attrs_ne_nil hne
          cases happly : m.apply a.argumentTokens (item.withAttrs (pre ++ post)) with
          | error c => rw [happly] at h; exact nomatch h
          | ok applied =>
              cases htail : applied.item.stepsWithin n with
              | error c =>
                  simp only [happly, htail, bind, Except.bind] at h
                  exact nomatch h
              | ok tail =>
                  simp only [happly, htail, bind, Except.bind] at h
                  obtain rfl := Except.ok.inj h
                  obtain ⟨hemits, hlength⟩ := ih htail
                  have hleft : applied.item.attrs = pre ++ post := by
                    rw [AttachedMacro.apply_item happly, Item.stripped_eq_without,
                      Item.attrs_without, Item.attrs_withAttrs hne]
                  refine ⟨.step (hall.trans hattrs) hpre ha (hset _ ▸ happly) hemits, ?_⟩
                  rw [List.length_cons, hlength, hleft, hattrs, Attribute.turns_cons ha]
                  omega

/-! ## The invariant of a run -/

/-- What the current item is to the original one: it has the attributes that are
    left, and some kinds of markers are gone that are all consumed by now. -/
def Item.Remains (item : Item) (attrs : List Attribute) (now : Item) : Prop :=
  now.allAttrs = attrs ∧ ∃ gone : Marker → Bool,
    now = (item.setAttrs attrs).without gone ∧ ∀ k, gone k = true → k.isConsumed attrs = true

namespace Item

/-- The original item is all there. -/
theorem Remains.refl (item : Item) : item.Remains item.allAttrs item := by
  refine ⟨rfl, fun _ => false, ?_, fun k hk => nomatch hk⟩
  rw [setAttrs_allAttrs, without_nothing]

/-- One step: a macro leaves the original item without its attribute and without
    the markers that are spent then. -/
theorem Remains.step {item now : Item} {pre post : List Attribute} {a : Attribute}
    {m : AttachedMacro} {arguments : Tokens} {applied : Applied}
    (h : item.Remains (pre ++ a :: post) now)
    (happly : m.apply arguments (now.setAttrs (pre ++ post)) = .ok applied) :
    applied.item = item.leftWith (pre ++ post) ∧ item.Remains (pre ++ post) applied.item := by
  obtain ⟨hattrs, gone, rfl, hgone⟩ := h
  have hsub : pre ++ post ⊆ pre ++ a :: post := by
    intro b hb
    rcases List.mem_append.mp hb with hpre | hpost
    · exact List.mem_append_left _ hpre
    · exact List.mem_append_right _ (List.mem_cons_of_mem a hpost)
  -- what was gone before is consumed now as well
  have hsame : (fun k => gone k || k.isConsumed (pre ++ post))
      = fun k => k.isConsumed (pre ++ post) := by
    funext k
    cases hk : gone k with
    | false => rfl
    | true => exact (Marker.isConsumed_of_subset hsub (hgone k hk)).symm
  have hitem : applied.item = item.leftWith (pre ++ post) := by
    rw [AttachedMacro.apply_item happly, setAttrs_without, setAttrs_setAttrs,
      stripped_setAttrs_without, hsame, leftWith_eq_without]
  refine ⟨hitem, ?_, fun k => k.isConsumed (pre ++ post), ?_, fun k hk => hk⟩
  · have hne : (item.setAttrs (pre ++ a :: post)).allAttrs ≠ [] := by
      rw [allAttrs_without] at hattrs
      rw [hattrs]
      simp
    have := allAttrs_setAttrs hne (pre ++ post)
    rw [hitem, leftWith_eq_without, allAttrs_without]
    rwa [setAttrs_setAttrs] at this
  · rw [hitem, leftWith_eq_without]

/-- Along a run, each item that is emitted is what is left of the original one
    after so many turns. -/
theorem Remains.emits {item now : Item} {attrs : List Attribute} {emitted : List Item}
    (h : item.Remains attrs now) (hemits : now.Emits emitted) :
    ∀ i next, emitted[i]? = some next →
      next = item.leftWith (Attribute.afterTurns (i + 1) attrs) := by
  induction hemits generalizing attrs with
  | nothing now =>
      intro i next hnext
      exact nomatch hnext
  | @step now pre post a m applied later hattrs hpre ha happly _ ih =>
      obtain rfl : attrs = pre ++ a :: post := h.1.symm.trans hattrs
      obtain ⟨hitem, hremains⟩ := h.step happly
      intro i next hnext
      rw [Attribute.afterTurns_succ hpre ha]
      cases i with
      | zero =>
          obtain rfl := Option.some.inj hnext
          rw [Attribute.afterTurns_zero]
          exact hitem
      | succ i => exact ih hremains i next hnext

end Item

/-- After all turns no attribute attaches a macro. -/
theorem Attribute.attached?_of_mem_afterTurns {attrs : List Attribute} {b : Attribute}
    (h : b ∈ Attribute.afterTurns (Attribute.turns attrs) attrs) : b.attached? = none := by
  induction attrs using Turn.schedule_induction with
  | hnone attrs hnone =>
      rw [Attribute.turns_eq_zero hnone, Attribute.afterTurns_zero] at h
      exact hnone b h
  | hturn pre a post m hpre ha ih =>
      rw [Attribute.turns_cons ha, Attribute.afterTurns_succ hpre ha] at h
      exact ih h

/-- Once no attribute attaches a macro, every kind of marker is consumed. -/
theorem Marker.isConsumed_of_unattached {attrs : List Attribute}
    (h : ∀ b ∈ attrs, b.attached? = none) (k : Marker) : k.isConsumed attrs = true := by
  rw [Marker.isConsumed_iff]
  intro m _
  rw [Bool.eq_false_iff]
  intro hamong
  obtain ⟨b, hb, hattached⟩ := AttachedMacro.isAmong_iff.mp hamong
  rw [h b hb] at hattached
  exact nomatch hattached

/-- A hound whose first macro cannot read its arguments, with a marker that is
    named through a path and attributes that nobody reads. -/
def Sample.hound : Sample where
  source := "#[auto_stub(x)] #[derive(Clone)] #[auto_init] struct Dog \x7b "
    ++ "#[my::default(true)] #[keep] good: bool, #[stub] age: u8 \x7d"

end DeclMacros
