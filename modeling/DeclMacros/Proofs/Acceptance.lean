import DeclMacros.Proofs.Crashes

/-! # Which traits get a wrapper

    A wrapper outlives the calls that it forwards, so a trait whose methods lend what
    they return, or hide it behind `impl`, is refused.  The tests for this look at the
    outermost form of a type only, while a type has others inside: arguments, elements,
    what stands in parentheses.  This file says exactly which traits are accepted, and
    from that, for which of them nothing that should be refused is left inside.

    The route: each chain of tests passes exactly if its conditions hold, those on the
    form of a member apart from those on its types (`TraitItem.isQuiet_iff`).  All
    members of a trait together give `TraitDecl.isErased_iff`. -/

set_option autoImplicit false

namespace DeclMacros

/-! ## The structure of a type -/

mutual

/-- The types inside a type: its arguments, elements and targets at any depth, those in
    the arguments of its bounds, and what a function returns.  What a function takes is
    not part of the structure. -/
def Ty.inner : Ty → List Ty
  | .path p => p.inner
  | .qualified _ self _ trait _ _ rest =>
    self :: self.inner ++ trait.inner ++ Segment.listInner rest
  | .reference _ _ _ target => target :: target.inner
  | .pointer _ target => target :: target.inner
  | .slice element _ => element :: element.inner
  | .array element _ _ _ => element :: element.inner
  | .tuple elements _ => Ty.listInner elements
  | .paren inner _ => inner :: inner.inner
  | .group inner _ => inner :: inner.inner
  | .never _ => []
  | .infer _ => []
  | .macroCall .. => []
  | .implTrait _ bounds => Bound.listInner bounds
  | .traitObject _ bounds => Bound.listInner bounds
  | .fnPointer _ _ _ _ output => output.inner
  | .verbatim _ => []

/-- The types of a sequence and those inside them. -/
def Ty.listInner : List (Ty × Tokens) → List Ty
  | [] => []
  | (t, _) :: rest => t :: t.inner ++ Ty.listInner rest

/-- The types in the arguments of a path. -/
def Path.inner : Path → List Ty
  | .mk _ segments => Segment.listInner segments

/-- The types in the arguments of path segments. -/
def Segment.listInner : List (Segment × Tokens) → List Ty
  | [] => []
  | (s, _) :: rest => s.inner ++ Segment.listInner rest

/-- The types in the arguments of a path segment. -/
def Segment.inner : Segment → List Ty
  | .mk _ arguments => arguments.inner

/-- The types in the arguments of a path segment. -/
def SegmentArgs.inner : SegmentArgs → List Ty
  | .none => []
  | .angle _ arguments _ => GenericArg.listInner arguments
  | .parens _ _ output => output.inner

/-- The types in generic arguments. -/
def GenericArg.listInner : List (GenericArg × Tokens) → List Ty
  | [] => []
  | (a, _) :: rest => a.inner ++ GenericArg.listInner rest

/-- The types in a generic argument. -/
def GenericArg.inner : GenericArg → List Ty
  | .lifetime _ => []
  | .type ty => ty :: ty.inner
  | .const _ => []
  | .binding _ _ ty => ty :: ty.inner
  | .constraint _ _ bounds => Bound.listInner bounds

/-- The types in the arguments of bounds. -/
def Bound.listInner : List (Bound × Tokens) → List Ty
  | [] => []
  | (b, _) :: rest => b.inner ++ Bound.listInner rest

/-- The types in the arguments of a bound. -/
def Bound.inner : Bound → List Ty
  | .lifetime _ => []
  | .trait _ _ path => path.inner

/-- The type of an output and those inside it. -/
def Output.inner : Output → List Ty
  | .none => []
  | .arrow _ ty => ty :: ty.inner

end

/-- A reference without a lifetime. -/
def Ty.isElided : Ty → Bool
  | .reference _ lifetime _ _ => lifetime.isEmpty
  | _ => false

theorem Ty.isElided_of_not_isReference {ty : Ty} (h : ty.isReference = false) :
    ty.isElided = false := by
  cases ty with
  | reference => cases h
  | _ => rfl

/-! ## What one member must be -/

namespace TraitMethod

/-- The types of what outlives a call: what the method returns and, as a future holds
    them, what an asynchronous method takes. -/
def heldTypes (m : TraitMethod) : List Ty :=
  m.signature.outputType?.toList ++ (if m.signature.isAsync then m.signature.inputTypes else [])

/-- The method has the form of one that can be forwarded, whatever its types are.  One
    that is marked also has the form of a getter with a type that is written out. -/
structure HasForm (m : TraitMethod) : Prop where
  borrows : m.borrowsSelf = true
  safe : m.signature.isUnsafe = false
  plain : m.signature.isGeneric = false
  bounded : m.isProperty = false → m.signature.isVariadic = false
  alone : m.isProperty = true → m.signature.inputs.length = 1
  atOnce : m.isProperty = true → m.signature.isAsync = false
  typed : m.isProperty = true → m.property.ty.isSome = true

/-- The types of the method are those of one that can be forwarded, as far as they are
    looked at. -/
structure PassesTypes (m : TraitMethod) : Prop where
  known : ∀ ty ∈ m.signature.allTypes, ty.isImplTrait = false
  selfless : ∀ ty ∈ m.signature.allTypes, ty.mentionsSelf = false
  owned : ∀ ty ∈ m.heldTypes, ty.isReference = false

/-- Nothing that should be refused is in the structure of the types. -/
structure IsOwnedThroughout (m : TraitMethod) : Prop where
  known : ∀ ty ∈ m.signature.allTypes, ∀ part ∈ ty :: ty.inner, part.isImplTrait = false
  owned : ∀ ty ∈ m.heldTypes, ∀ part ∈ ty :: ty.inner, part.isElided = false

end TraitMethod

/-- A chain of tests finds nothing if its first test does not and the rest does not. -/
theorem ite_some_eq_none_iff {α : Type} {c : Prop} [Decidable c] {x : α} {o : Option α} :
    (if c then some x else o) = none ↔ ¬c ∧ o = none := by
  by_cases h : c
  · simp [h]
  · simp [h]

/-- A chain of tests succeeds if its first test does not fail and the rest succeeds. -/
theorem exists_ite_error_eq_ok_iff {ε α : Type} {c : Prop} [Decidable c] {d : ε}
    {r : Except ε α} : (∃ y, (if c then .error d else r) = .ok y) ↔ ¬c ∧ ∃ y, r = .ok y := by
  by_cases h : c
  · simp [h]
  · simp [h]

namespace TraitMethod

variable {m : TraitMethod}

/-- A method that borrows the value has a receiver as its first input. -/
theorem firstInput?_of_borrowsSelf (h : m.borrowsSelf = true) :
    ∃ attrs reference life mutability self,
      m.firstInput? = some (.receiver attrs reference life mutability self) := by
  unfold borrowsSelf at h
  cases hfirst : m.firstInput? with
  | none => rw [hfirst] at h; cases h
  | some input =>
      cases input with
      | receiver attrs reference life mutability self => exact ⟨_, _, _, _, _, rfl⟩
      | typed => rw [hfirst] at h; cases h

/-- No held type is a reference exactly if the two tests for borrowed types pass. -/
theorem forall_heldTypes_iff :
    (∀ ty ∈ m.heldTypes, ty.isReference = false)
      ↔ ¬m.signature.outputType?.any Ty.isReference = true
        ∧ ¬(m.signature.isAsync && m.signature.inputTypes.any Ty.isReference) = true := by
  rw [heldTypes, List.forall_mem_append]
  refine and_congr ?_ ?_
  · cases m.signature.outputType? <;> simp
  · cases m.signature.isAsync <;> simp

/-- A method that is not marked passes its chain of tests exactly if it has the form and
    its types pass. -/
theorem obstacle?_eq_none_iff (hmarked : m.isProperty = false) :
    m.obstacle? = none ↔ m.HasForm ∧ m.PassesTypes := by
  have hany : ∀ p : Ty → Bool, ¬m.signature.allTypes.any p = true
      ↔ ∀ ty ∈ m.signature.allTypes, p ty = false := by
    simp
  unfold obstacle?
  simp only [ite_some_eq_none_iff, Bool.or_eq_true, not_or, hany]
  constructor
  · rintro ⟨hsafe, hborrows, ⟨⟨hplain, hbounded⟩, hknown⟩, hself, houtput, hinputs, -⟩
    refine ⟨⟨by simpa using hborrows, by simpa using hsafe, by simpa using hplain,
      fun _ => by simpa using hbounded, ?_, ?_, ?_⟩,
      hknown, hself, forall_heldTypes_iff.mpr ⟨houtput, hinputs⟩⟩
    all_goals
      rw [hmarked]
      exact Bool.noConfusion
  · rintro ⟨hform, htypes⟩
    obtain ⟨houtput, hinputs⟩ := forall_heldTypes_iff.mp htypes.owned
    exact ⟨by simp [hform.safe], by simp [hform.borrows],
      ⟨⟨by simp [hform.plain], by simp [hform.bounded hmarked]⟩, htypes.known⟩,
      htypes.selfless, houtput, hinputs, trivial⟩

/-- A marked method has the form exactly if it is a getter with a type that is written
    out. -/
theorem hasForm_iff_isGetter (hmarked : m.isProperty = true) :
    m.HasForm ↔ m.isGetter = true ∧ m.property.ty.isSome = true := by
  simp only [isGetter, Bool.and_eq_true, Bool.not_eq_true', decide_eq_true_eq]
  constructor
  · intro h
    exact ⟨⟨⟨⟨⟨h.borrows, h.alone hmarked⟩, h.atOnce hmarked⟩, h.safe⟩, h.plain⟩, h.typed hmarked⟩
  · rintro ⟨⟨⟨⟨⟨hborrows, halone⟩, hatOnce⟩, hsafe⟩, hplain⟩, htyped⟩
    refine ⟨hborrows, hsafe, hplain, ?_, fun _ => halone, fun _ => hatOnce, fun _ => htyped⟩
    rw [hmarked]
    exact Bool.noConfusion

/-- A getter takes nothing but the value itself. -/
theorem inputTypes_of_isGetter (h : m.isGetter = true) : m.signature.inputTypes = [] := by
  simp only [isGetter, Bool.and_eq_true, decide_eq_true_eq] at h
  obtain ⟨⟨⟨⟨hborrows, halone⟩, -⟩, -⟩, -⟩ := h
  obtain ⟨attrs, reference, life, mutability, self, hfirst⟩ := firstInput?_of_borrowsSelf hborrows
  obtain ⟨⟨input, separator⟩, hinputs⟩ := List.length_eq_one_iff.mp halone
  rw [firstInput?, hinputs] at hfirst
  -- the only input is the first one, and a receiver has no type of its own
  obtain rfl : input = .receiver attrs reference life mutability self := Option.some.inj hfirst
  rw [Signature.inputTypes, hinputs]
  rfl

/-- The types of a getter are the one that it returns. -/
theorem types_of_isGetter (h : m.isGetter = true) {ty : Ty} (hty : m.property.ty = some ty) :
    m.signature.allTypes = [ty] ∧ m.heldTypes = [ty] := by
  have houtput : m.signature.outputType? = some ty := by
    obtain ⟨written, hwritten, hexplicit⟩ := Option.bind_eq_some_iff.mp hty
    rw [Ty.explicit?] at hexplicit
    cases hinfer : written.isInfer with
    | true => rw [hinfer] at hexplicit; cases hexplicit
    | false => rw [hinfer] at hexplicit; rwa [← Option.some.inj hexplicit]
  rw [Signature.allTypes, heldTypes, inputTypes_of_isGetter h, houtput, ite_self]
  exact ⟨rfl, rfl⟩

/-- A marked method that is not left out passes its chain of tests exactly if it has the
    form and its types pass. -/
theorem exists_propertyMember_iff (hmarked : m.isProperty = true)
    (hkept : (!m.hasReceiver && m.hasDefault) = false) :
    (∃ member, m.propertyMember = .ok member) ↔ m.HasForm ∧ m.PassesTypes := by
  rw [propertyMember, hkept, if_neg Bool.false_ne_true, hasForm_iff_isGetter hmarked,
    exists_ite_error_eq_ok_iff]
  cases hgetter : m.isGetter with
  | false => simp
  | true =>
      cases hty : m.property.ty with
      | none => simp
      | some ty =>
          obtain ⟨hall, hheld⟩ := types_of_isGetter hgetter hty
          have htypes : m.PassesTypes
              ↔ ty.mentionsSelf = false ∧ ty.isReference = false ∧ ty.isImplTrait = false := by
            constructor
            · rintro ⟨hknown, hself, howned⟩
              rw [hall] at hknown hself
              rw [hheld] at howned
              simp_all
            · rintro ⟨hself, howned, hknown⟩
              constructor <;> simp [hall, hheld, hself, howned, hknown]
          simp only [exists_ite_error_eq_ok_iff, htypes]
          simp

/-- A borrowed value is taken. -/
theorem takesSelf_of_borrowsSelf (h : m.borrowsSelf = true) : m.takesSelf = true := by
  obtain ⟨_, _, _, _, _, hfirst⟩ := firstInput?_of_borrowsSelf h
  rw [takesSelf, hfirst]

/-- Any other method that is not left out passes its tests exactly if it has the form and
    its types pass. -/
theorem exists_methodMember_iff (hmarked : m.isProperty = false)
    (hkept : (!m.takesSelf && m.hasDefault) = false) :
    (∃ member, m.methodMember = .ok member) ↔ m.HasForm ∧ m.PassesTypes := by
  unfold methodMember
  cases htakes : m.takesSelf with
  | false =>
      -- without a default such a method is reported, and it does not have the form
      have hbare : m.hasDefault = false := by simpa [htakes] using hkept
      refine iff_of_false ?_ ?_
      · simp [hbare]
      · rintro ⟨hform, -⟩
        rw [takesSelf_of_borrowsSelf hform.borrows] at htakes
        cases htakes
  | true =>
      rw [← obstacle?_eq_none_iff hmarked]
      cases m.obstacle? <;> simp

end TraitMethod

namespace TraitItem

/-- Nothing is reported about a member exactly if it is left to a default, or is a method
    that has the form of one that can be forwarded and whose types pass. -/
theorem isQuiet_iff (item : TraitItem) :
    item.isType = false ∧ item.report? = none
      ↔ (item.isForwarded = true → ∃ m, item = .method m ∧ m.HasForm ∧ m.PassesTypes) := by
  have hreport : item.report? = none ↔ ∃ member, item.wrapperMember = .ok member := by
    unfold report?
    cases item.wrapperMember <;> simp
  rw [hreport]
  cases item with
  | method m =>
      have hmethod : (∃ m', TraitItem.method m = .method m' ∧ m'.HasForm ∧ m'.PassesTypes)
          ↔ m.HasForm ∧ m.PassesTypes := by
        simp
      have hforwarded : (TraitItem.method m).isForwarded
          = !(!m.seesReceiver && m.hasDefault) := by
        simp [isForwarded, hasDefault, Bool.or_comm]
      rw [hmethod, hforwarded, TraitMethod.seesReceiver]
      -- which chain of tests a method goes through depends on its mark, and so does what
      -- counts as left out
      show false = false ∧ (∃ member, (if m.isProperty then m.propertyMember else m.methodMember)
        = .ok member) ↔ _
      cases hmarked : m.isProperty with
      | true =>
          cases hleft : !m.hasReceiver && m.hasDefault with
          | true => simp [hleft, TraitMethod.propertyMember]
          | false => simp [hleft, TraitMethod.exists_propertyMember_iff hmarked hleft]
      | false =>
          cases hleft : !m.takesSelf && m.hasDefault with
          | true =>
              rw [Bool.and_eq_true] at hleft
              simp [hleft, TraitMethod.methodMember]
          | false => simp [hleft, TraitMethod.exists_methodMember_iff hmarked hleft]
  | const attrs name hasValue body =>
      cases hasValue <;> simp [isType, isForwarded, hasDefault, wrapperMember]
  | type attrs name body => simp [isType, isForwarded, hasDefault]
  | macroCall attrs call => simp [isForwarded, hasDefault, wrapperMember]
  | verbatim tokens => simp [isForwarded, hasDefault, wrapperMember]

end TraitItem

/-! ## What a whole trait must be -/

namespace TraitDecl

variable {t : TraitDecl}

/-- The methods that are not left to a default. -/
def forwardedMethods (t : TraitDecl) : List TraitMethod :=
  t.methods.filter fun m => (TraitItem.method m).isForwarded

theorem mem_forwardedMethods {m : TraitMethod} :
    m ∈ t.forwardedMethods
      ↔ TraitItem.method m ∈ t.items ∧ (TraitItem.method m).isForwarded = true := by
  rw [forwardedMethods, List.mem_filter]
  refine and_congr_left' ⟨TraitDecl.mem_items_of_mem_methods, ?_⟩
  intro h
  exact List.mem_filterMap.mpr ⟨.method m, h, rfl⟩

/-- The trait has the form of one that gets a wrapper, whatever the types in it are. -/
structure HasForm (t : TraitDecl) : Prop where
  named : ∃ name, t.name.erasedName = .ok name
  plain : Wrapper.isGenericTrait t = false
  hasProperty : ∃ m ∈ t.forwardedMethods, m.isProperty = true
  members : ∀ item ∈ t.items, item.isForwarded = true → ∃ m, item = .method m ∧ m.HasForm

end TraitDecl

namespace Wrapper

variable {t : TraitDecl}

/-- Nothing is reported about a trait exactly if nothing is about its members. -/
theorem reportsOf_eq_nil_iff :
    reportsOf t = [] ↔ ∀ item ∈ t.items, item.isType = false ∧ item.report? = none := by
  refine ⟨of_reportsOf_nil, ?_⟩
  intro h
  rw [reportsOf_eq, List.append_eq_nil_iff, List.map_eq_nil_iff, List.filter_eq_nil_iff,
    List.filterMap_eq_nil_iff]
  constructor
  · intro item hitem
    rw [(h item hitem).1]
    exact Bool.false_ne_true
  · intro item hitem
    exact (h item (List.mem_of_mem_filter hitem)).2

/-- Where nothing is reported, a property is copied exactly if one is forwarded. -/
theorem any_isProperty_membersOf_iff (h : reportsOf t = []) :
    (membersOf t).any WrapperMember.isProperty = true
      ↔ ∃ m ∈ t.forwardedMethods, m.isProperty = true := by
  have hstands := forall₂_forwarded_members h
  rw [List.any_eq_true]
  constructor
  · rintro ⟨member, hmember, hproperty⟩
    obtain ⟨item, hitem, has⟩ := exists_mem_of_forall₂ hstands hmember
    cases has with
    | property m ty hmarked =>
        exact ⟨m, TraitDecl.mem_forwardedMethods.mpr (List.mem_filter.mp hitem), hmarked⟩
    | method m hmarked => cases hproperty
  · rintro ⟨m, hm, hmarked⟩
    obtain ⟨member, hmember, has⟩ :=
      exists_mem_of_forall₂ hstands.flip (List.mem_filter.mpr (TraitDecl.mem_forwardedMethods.mp hm))
    refine ⟨member, hmember, ?_⟩
    cases has with
    | property m ty _ => rfl
    | method m hunmarked => rw [hmarked] at hunmarked; cases hunmarked

end Wrapper

/-- A trait passes all checks and can be named exactly if it has the form and the types of
    all forwarded methods pass. -/
theorem TraitDecl.isErased_iff {t : TraitDecl} :
    t.IsErased ∧ (∃ name, t.name.erasedName = .ok name)
      ↔ t.HasForm ∧ ∀ m ∈ t.forwardedMethods, m.PassesTypes := by
  constructor
  · rintro ⟨h, hnamed⟩
    have hquiet := fun item hitem =>
      (TraitItem.isQuiet_iff item).mp (Wrapper.reportsOf_eq_nil_iff.mp h.quiet item hitem)
    have hproperty := (Wrapper.any_isProperty_membersOf_iff h.quiet).mp h.copiesProperty
    refine ⟨⟨hnamed, h.plain, hproperty, ?_⟩, ?_⟩
    · intro item hitem hforwarded
      obtain ⟨m, hm, hform, -⟩ := hquiet item hitem hforwarded
      exact ⟨m, hm, hform⟩
    · intro m hm
      obtain ⟨hitem, hforwarded⟩ := TraitDecl.mem_forwardedMethods.mp hm
      obtain ⟨m', hm', -, htypes⟩ := hquiet _ hitem hforwarded
      cases hm'
      exact htypes
  · rintro ⟨h, htypes⟩
    -- form and types are asked of each member apart, and the chain of tests asks for both
    have hquiet : Wrapper.reportsOf t = [] := by
      rw [Wrapper.reportsOf_eq_nil_iff]
      intro item hitem
      rw [TraitItem.isQuiet_iff]
      intro hforwarded
      obtain ⟨m, rfl, hform⟩ := h.members item hitem hforwarded
      exact ⟨m, rfl, hform, htypes m (TraitDecl.mem_forwardedMethods.mpr ⟨hitem, hforwarded⟩)⟩
    obtain ⟨m, hm, hmarked⟩ := h.hasProperty
    have hmethod : m ∈ t.methods := List.mem_of_mem_filter hm
    exact ⟨⟨h.plain, List.any_eq_true.mpr ⟨m, hmethod, hmarked⟩, hquiet,
      (Wrapper.any_isProperty_membersOf_iff hquiet).mpr h.hasProperty⟩, h.named⟩

/-- A wrapper is generated exactly for a trait that passes all checks and can be named. -/
theorem Wrapper.exists_mem_expand_iff (a : Attachment) (t : TraitDecl) :
    (∃ e w, Wrapper.expand a (.trait t) = .ok e ∧ w ∈ e.items)
      ↔ t.IsErased ∧ ∃ name, t.name.erasedName = .ok name := by
  by_cases h : t.IsErased
  · rw [Wrapper.expand_of_isErased h, and_iff_right h]
    cases t.name.erasedName with
    | error c => simp [Except.map]
    | ok name => simp [Except.map]
  · obtain ⟨diagnostics, hexpand⟩ := Wrapper.expand_of_not_isErased (a := a) h
    rw [hexpand]
    simp [h]

/-- **Which traits get a wrapper.**  A wrapper is generated exactly for a trait that has
    the form, whatever types it names, and whose forwarded methods have types of which
    none mentions `Self` or is itself opaque, and none that is held is itself a
    reference.  So in the types of such a method nothing opaque, and in the held ones no
    reference without a lifetime, is left at any depth exactly if none stands strictly
    inside of a type. -/
theorem Wrapper.generated_iff_outermost_types_pass (a : Attachment) (t : TraitDecl) :
    ((∃ e w, Wrapper.expand a (.trait t) = .ok e ∧ w ∈ e.items)
        ↔ t.HasForm ∧ ∀ m ∈ t.forwardedMethods, m.PassesTypes)
      ∧ ∀ e w, Wrapper.expand a (.trait t) = .ok e → w ∈ e.items →
        ∀ m ∈ t.forwardedMethods, m.IsOwnedThroughout
          ↔ (∀ ty ∈ m.signature.allTypes, ∀ part ∈ ty.inner, part.isImplTrait = false)
            ∧ ∀ ty ∈ m.heldTypes, ∀ part ∈ ty.inner, part.isElided = false := by
  have hgenerated : (∃ e w, Wrapper.expand a (.trait t) = .ok e ∧ w ∈ e.items)
      ↔ t.HasForm ∧ ∀ m ∈ t.forwardedMethods, m.PassesTypes := by
    rw [Wrapper.exists_mem_expand_iff, TraitDecl.isErased_iff]
  refine ⟨hgenerated, ?_⟩
  intro e w h hw m hm
  have htypes := (hgenerated.mp ⟨e, w, h, hw⟩).2 m hm
  constructor
  · rintro ⟨hknown, howned⟩
    refine ⟨?_, ?_⟩
    · intro ty hty part hpart
      exact hknown ty hty part (List.mem_cons_of_mem ty hpart)
    · intro ty hty part hpart
      exact howned ty hty part (List.mem_cons_of_mem ty hpart)
  · rintro ⟨hknown, howned⟩
    refine ⟨?_, ?_⟩
    · intro ty hty
      exact List.forall_mem_cons.mpr ⟨htypes.known ty hty, hknown ty hty⟩
    · intro ty hty
      exact List.forall_mem_cons.mpr
        ⟨Ty.isElided_of_not_isReference (htypes.owned ty hty), howned ty hty⟩

/-- A loom that borrows only where it may: in arguments, in what a function takes, and
    with a lifetime. -/
def Sample.loom : Sample where
  source := "trait Loom \x7b #[property] fn width(&self) -> Option<&'static str>; "
    ++ "fn weave(&self, name: &str, f: Box<dyn Fn(&u8) -> u8>) -> (u8, [fn(&u8); 2]); "
    ++ "async fn rest(&self, hours: Vec<(u8, &'static u8)>); \x7d"

/-- In the loom's types nothing is left that should be refused. -/
theorem Sample.loom_isOwnedThroughout :
    ∃ t e w, Sample.loom.trait? = some t ∧ Wrapper.expand {} (.trait t) = .ok e ∧ w ∈ e.items
      ∧ t.HasForm ∧ t.forwardedMethods.length = 3
      ∧ ∀ m ∈ t.forwardedMethods, m.PassesTypes ∧ m.IsOwnedThroughout := by
  have hcheck : (Sample.loom.trait?.any fun t => (Wrapper.expand {} (.trait t)).toOption.any
      fun e => e.items.head?.any fun _ => decide (t.forwardedMethods.length = 3
        ∧ ∀ m ∈ t.forwardedMethods,
          (∀ ty ∈ m.signature.allTypes, ∀ part ∈ ty.inner, part.isImplTrait = false)
            ∧ ∀ ty ∈ m.heldTypes, ∀ part ∈ ty.inner, part.isElided = false)) = true := by
    decide +kernel
  obtain ⟨t, ht, hall⟩ := (Option.any_eq_true _ _).mp hcheck
  obtain ⟨e, he, hall⟩ := (Option.any_eq_true _ _).mp hall
  obtain ⟨w, hw, hall⟩ := (Option.any_eq_true _ _).mp hall
  obtain ⟨hlength, hinner⟩ := of_decide_eq_true hall
  have he := eq_ok_of_toOption he
  have hw := List.mem_of_head? hw
  obtain ⟨hgenerated, howned⟩ := Wrapper.generated_iff_outermost_types_pass {} t
  obtain ⟨hform, htypes⟩ := hgenerated.mp ⟨e, w, he, hw⟩
  exact ⟨t, e, w, ht, he, hw, hform, hlength,
    fun m hm => ⟨htypes m hm, (howned e w he hw m hm).mpr (hinner m hm)⟩⟩

/-- A lens whose property lends a text in parentheses, and whose other method takes and
    returns what is borrowed or opaque inside of other types. -/
def Sample.lens : Sample where
  source := "trait Lens \x7b #[property] fn label(&self) -> (&str); "
    ++ "async fn focus(&self, at: [&u8; 2], by: Vec<impl Copy>) -> Option<&u8>; \x7d"

/-- Types are not looked into: the lens gets a wrapper, though a reference without a
    lifetime is inside of its property's type and of two types that its other method
    holds, and an opaque type is inside of one that it takes. -/
theorem Sample.lens_gets_wrapper :
    ∃ t e w label focus, Sample.lens.trait? = some t ∧ Wrapper.expand {} (.trait t) = .ok e
      ∧ w ∈ e.items ∧ t.forwardedMethods = [label, focus]
      ∧ label.isProperty = true ∧ focus.signature.isAsync = true
      ∧ label.heldTypes.map (fun ty => ty.inner.any Ty.isElided) = [true]
      ∧ focus.heldTypes.map (fun ty => ty.inner.any Ty.isElided) = [true, true, false]
      ∧ focus.signature.allTypes.map (fun ty => ty.inner.any Ty.isImplTrait)
        = [false, true, false] := by
  have hcheck : (Sample.lens.trait?.any fun t => (Wrapper.expand {} (.trait t)).toOption.any
      fun e => e.items.head?.any fun _ => t.forwardedMethods[0]?.any fun label =>
        t.forwardedMethods[1]?.any fun focus => decide (t.forwardedMethods.length = 2
          ∧ label.isProperty = true ∧ focus.signature.isAsync = true
          ∧ label.heldTypes.map (fun ty => ty.inner.any Ty.isElided) = [true]
          ∧ focus.heldTypes.map (fun ty => ty.inner.any Ty.isElided) = [true, true, false]
          ∧ focus.signature.allTypes.map (fun ty => ty.inner.any Ty.isImplTrait)
            = [false, true, false])) = true := by
    decide +kernel
  obtain ⟨t, ht, hall⟩ := (Option.any_eq_true _ _).mp hcheck
  obtain ⟨e, he, hall⟩ := (Option.any_eq_true _ _).mp hall
  obtain ⟨w, hw, hall⟩ := (Option.any_eq_true _ _).mp hall
  obtain ⟨label, hlabel, hall⟩ := (Option.any_eq_true _ _).mp hall
  obtain ⟨focus, hfocus, hall⟩ := (Option.any_eq_true _ _).mp hall
  obtain ⟨hlength, hfacts⟩ := of_decide_eq_true hall
  obtain ⟨m, m', hmethods⟩ := List.length_eq_two.mp hlength
  rw [hmethods] at hlabel hfocus
  cases hlabel
  cases hfocus
  exact ⟨t, e, w, label, focus, ht, eq_ok_of_toOption he, List.mem_of_head? hw, hmethods, hfacts⟩

end DeclMacros
