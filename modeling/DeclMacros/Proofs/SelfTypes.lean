import DeclMacros.Proofs.Acceptance
import DeclMacros.Proofs.Hygiene

/-! # No type that says `Self` reaches a wrapper

    Inside of a wrapper `Self` would mean the wrapper, where the author meant the
    implementor.  So a method with such a type is refused, at whatever depth of groups
    the word stands.

    The route: a type says `Self` if the word is among its identifiers, all of them in
    one list (`Token.identsAll`), and the test of the wrapper finds it exactly then
    (`Token.mentionsAny_iff`).  From there the two directions are apart.  A member that
    got through has types that do not say it (`selfless_of_wrapperMember`), and what is
    written around them does not either (`saysSelf_typesInNew_iff`).  A method that has
    the form of one that is forwarded and says it gets this report and no other
    (`wrapperMember_of_saysSelfAt`), and the reports about the rest of the trait are
    those that it has without the method (`reportsOf_insert`). -/

set_option autoImplicit false

namespace DeclMacros

/-! ## Identifiers at any depth -/

namespace Token

mutual

/-- A tree mentions a word exactly if it is printed for one of the identifiers. -/
theorem mentions_iff {text : String} :
    ∀ t : Token, t.mentions text = true ↔ ∃ i ∈ t.idents, i.display = text
  | .ident i => by simp [mentions, idents, Ident.is]
  | .punct .. => by simp [mentions, idents]
  | .literal .. => by simp [mentions, idents]
  | .group _ content _ => mentionsAny_iff content

/-- And so does a sequence. -/
theorem mentionsAny_iff {text : String} :
    ∀ ts : List Token, mentionsAny text ts = true ↔ ∃ i ∈ identsAll ts, i.display = text
  | [] => by simp [mentionsAny, identsAll]
  | t :: ts => by
      rw [mentionsAny, identsAll, Bool.or_eq_true, mentions_iff t, mentionsAny_iff ts]
      simp only [List.mem_append, or_and_right, exists_or]

end

end Token

@[simp] theorem Ident.display_plain (word : String) (span : Span) :
    Ident.display ⟨word, false, span⟩ = word := rfl

/-- The word `Self` stands among the tokens, at some depth of groups. -/
def Tokens.SaysSelf (ts : Tokens) : Prop := ∃ i ∈ Token.identsAll ts, i.display = "Self"

instance Tokens.decidableSaysSelf (ts : Tokens) : Decidable ts.SaysSelf :=
  inferInstanceAs (Decidable (∃ i ∈ Token.identsAll ts, i.display = "Self"))

theorem Ty.mentionsSelf_iff (ty : Ty) : ty.mentionsSelf = true ↔ ty.tokens.SaysSelf :=
  Token.mentionsAny_iff ty.tokens

theorem Ty.mentionsSelf_eq_false_iff (ty : Ty) :
    ty.mentionsSelf = false ↔ ¬ty.tokens.SaysSelf := by
  rw [← ty.mentionsSelf_iff, Bool.not_eq_true]

/-! ## What gets through -/

namespace WrapperMember

/-- The types of the author that a member of a wrapper has. -/
def types : WrapperMember → List Ty
  | .property _ ty => [ty]
  | .method s _ => s.allTypes

end WrapperMember

namespace TraitMethod

/-- A property that is copied out has a type that passed the test. -/
theorem selfless_of_propertyMember {m : TraitMethod} {member : WrapperMember}
    (h : m.propertyMember = .ok (some member)) : ∀ ty ∈ member.types, ¬ty.tokens.SaysSelf := by
  unfold propertyMember at h
  split at h
  · cases h
  split at h
  · cases h
  split at h
  · cases h
  next ty _ =>
    split at h
    · cases h
    next hself =>
      split at h
      · cases h
      · -- the chain is passed, and the member has the type that was tested
        cases h
        intro ty' hty'
        obtain rfl := List.mem_singleton.mp hty'
        exact fun hsays => hself (ty'.mentionsSelf_iff.mpr hsays)

/-- A method that is called has types that passed the test. -/
theorem selfless_of_methodMember {m : TraitMethod} {member : WrapperMember}
    (hmarked : m.isProperty = false) (h : m.methodMember = .ok (some member)) :
    ∀ ty ∈ member.types, ¬ty.tokens.SaysSelf := by
  unfold methodMember at h
  split at h
  · split at h
    · cases h
    · cases h
  · cases hobstacle : m.obstacle? with
    | some reason => rw [hobstacle] at h; cases h
    | none =>
        rw [hobstacle] at h
        cases h
        intro ty hty
        exact ty.mentionsSelf_eq_false_iff.mp
          (((obstacle?_eq_none_iff hmarked).mp hobstacle).2.selfless ty hty)

end TraitMethod

/-- No type of a member of a wrapper says `Self`. -/
theorem TraitItem.selfless_of_wrapperMember {item : TraitItem} {member : WrapperMember}
    (h : item.wrapperMember = .ok (some member)) : ∀ ty ∈ member.types, ¬ty.tokens.SaysSelf := by
  cases item with
  | method m =>
      cases hmarked : m.isProperty with
      | true => exact TraitMethod.selfless_of_propertyMember ((if_pos hmarked).symm.trans h)
      | false =>
          refine TraitMethod.selfless_of_methodMember hmarked (Eq.trans ?_ h)
          exact (if_neg (by simp [hmarked])).symm
  | const attrs name hasValue body => cases hasValue <;> cases h
  | type attrs name body => cases h
  | macroCall attrs call => cases h
  | verbatim tokens => cases h

namespace ForwardingCode

variable {c : ForwardingCode}

/-- What is written around the output of an asynchronous method does not say `Self`. -/
theorem saysSelf_output : c.output.SaysSelf ↔ c.result.SaysSelf := by
  unfold output
  cases c.boxed with
  | false => rfl
  | true => simp [Tokens.SaysSelf, Tokens.core]

/-- Nor does what is written around the types of a closure. -/
theorem saysSelf_closureType :
    c.closureType.SaysSelf ↔ (∃ ty ∈ c.types, ty.tokens.SaysSelf) ∨ c.result.SaysSelf := by
  have hswap : (∃ i, (∃ ty ∈ c.types, i ∈ Token.identsAll ty.tokens) ∧ i.display = "Self")
      ↔ ∃ ty ∈ c.types, ty.tokens.SaysSelf := by
    constructor
    · rintro ⟨i, ⟨ty, hty, hi⟩, hself⟩
      exact ⟨ty, hty, i, hi, hself⟩
    · rintro ⟨ty, hty, i, hi, hself⟩
      exact ⟨i, ⟨ty, hty, hi⟩, hself⟩
  rw [← saysSelf_output, ← hswap]
  unfold closureType
  simp [Tokens.SaysSelf, WrapperMember.arc, or_and_right, exists_or]

/-- The result says `Self` exactly if the declared output does. -/
theorem InPlace.saysSelf_result_iff {s : Signature} (h : c.InPlace s) :
    c.result.SaysSelf ↔ ∃ ty ∈ s.outputType?.toList, ty.tokens.SaysSelf := by
  rw [Signature.outputType?]
  cases houtput : s.output.ty? with
  | none => rw [h.resultUnit houtput]; simp [Tokens.SaysSelf]
  | some ty => rw [h.resultType ty houtput]; simp

/-- The types that `new` repeats for a method say `Self` exactly if a declared type
    does. -/
theorem InPlace.saysSelf_typesInNew_iff {s : Signature} (h : c.InPlace s) :
    (∃ ts ∈ c.typesInNew, ts.SaysSelf) ↔ ∃ ty ∈ s.allTypes, ty.tokens.SaysSelf := by
  have hparams : (∃ ts ∈ c.params.map fun p => p.2.tokens, Tokens.SaysSelf ts)
      ↔ ∃ ty ∈ s.inputTypes, ty.tokens.SaysSelf := by
    have htypes : c.params.map (fun p => p.2.tokens) = s.inputTypes.map Ty.tokens := by
      rw [← h.paramTypes, List.map_map]
      rfl
    rw [htypes]
    simp
  have hfield : c.field.ty = c.closureType := rfl
  simp only [typesInNew, List.exists_mem_cons_iff, hfield, saysSelf_closureType, saysSelf_output,
    hparams, h.types, h.saysSelf_result_iff, Signature.allTypes, List.mem_append,
    or_and_right, exists_or]
  -- the field's type says what the others do, so they add nothing
  exact (or_congr_right or_comm).trans or_self_iff

/-- So they do not say it if no declared type does. -/
theorem InPlace.selfless_typesInNew {s : Signature} (h : c.InPlace s)
    (hselfless : ∀ ty ∈ s.allTypes, ¬ty.tokens.SaysSelf) :
    ∀ ts ∈ c.typesInNew, ¬ts.SaysSelf := by
  intro ts hts hsays
  obtain ⟨ty, hty, htysays⟩ := h.saysSelf_typesInNew_iff.mp ⟨ts, hts, hsays⟩
  exact hselfless ty hty htysays

end ForwardingCode

/-! ## What is reported -/

/-- The method has the form of one that is forwarded, and one of its types says `Self`.
    A property is reported where its type stands, any other method where its signature
    does. -/
inductive TraitMethod.SaysSelfAt (m : TraitMethod) : Span → Prop where
  | property {ty : Ty} : m.isProperty = true → m.isGetter = true → m.property.ty = some ty →
      ty.tokens.SaysSelf → SaysSelfAt m ty.span
  | method {ty : Ty} : m.isProperty = false → m.borrowsSelf = true →
      m.signature.isUnsafe = false → m.signature.isGeneric = false →
      m.signature.isVariadic = false → (∀ ty ∈ m.signature.allTypes, ty.isImplTrait = false) →
      ty ∈ m.signature.allTypes → ty.tokens.SaysSelf → SaysSelfAt m m.signature.span

/-- Such a method gets this report, whatever else stands against it. -/
theorem TraitItem.wrapperMember_of_saysSelfAt {m : TraitMethod} {place : Span}
    (h : m.SaysSelfAt place) :
    (TraitItem.method m).wrapperMember = .error ⟨.unforwardable .selfType, place⟩ := by
  cases h with
  | @property ty hmarked hgetter hty hsays =>
      have hreceiver : m.hasReceiver = true := by
        have hform := (TraitMethod.hasForm_iff_isGetter hmarked).mpr ⟨hgetter, by simp [hty]⟩
        exact TraitMethod.hasReceiver_of_borrowsSelf hform.borrows
      refine (if_pos hmarked).trans ?_
      simp [TraitMethod.propertyMember, hreceiver, hgetter, hty, ty.mentionsSelf_iff.mpr hsays]
  | @method ty hmarked hborrows hsafe hplain hbounded hknown hty hsays =>
      have hself : m.signature.allTypes.any Ty.mentionsSelf = true :=
        List.any_eq_true.mpr ⟨ty, hty, ty.mentionsSelf_iff.mpr hsays⟩
      have hhidden : m.signature.allTypes.any Ty.isImplTrait = false := by
        simpa using hknown
      -- the tests before the one for `Self` are those that the form passes
      have hobstacle : m.obstacle? = some .selfType := by
        simp [TraitMethod.obstacle?, hsafe, hborrows, hplain, hbounded, hhidden, hself]
      refine (if_neg (by simp [hmarked])).trans ?_
      simp [TraitMethod.methodMember, TraitMethod.takesSelf_of_borrowsSelf hborrows, hobstacle]

namespace Wrapper

variable {a : Attachment} {t : TraitDecl} {e : Expansion Wrapper} {w : Wrapper}

/-- A method with a report adds it to those that the rest of the trait gets. -/
theorem reportsOf_insert {pre post : List TraitItem} {m : TraitMethod} {d : Diagnostic}
    (hitems : t.items = pre ++ .method m :: post)
    (hreport : (TraitItem.method m).wrapperMember = .error d) :
    ∃ before after, reportsOf t = before ++ d :: after
      ∧ before ++ after = reportsOf { t with items := pre ++ post } := by
  have hsome : (TraitItem.method m).report? = some d := by rw [TraitItem.report?, hreport]
  -- the reports of associated types come first, and a method has none among them
  refine ⟨(pre ++ post).filterMap TraitItem.typeReport? ++ pre.filterMap TraitItem.report?,
    post.filterMap TraitItem.report?, ?_, ?_⟩
  · show t.items.filterMap TraitItem.typeReport? ++ t.items.filterMap TraitItem.report? = _
    rw [hitems, List.filterMap_append, List.filterMap_append, List.filterMap_append,
      List.filterMap_cons_none rfl, List.filterMap_cons_some hsome]
    simp only [List.append_assoc]
  · rw [List.append_assoc, ← List.filterMap_append]
    rfl

/-- Where the trait gets as far as its members, their reports are the outcome. -/
theorem expand_of_reportsOf_ne_nil (hplain : isGenericTrait t = false)
    (hmarked : t.methods.any TraitMethod.isProperty = true) (hreports : reportsOf t ≠ []) :
    Wrapper.expand a (.trait t) = .ok { diagnostics := reportsOf t } := by
  simp [Wrapper.expand, hplain, hmarked, hreports]

/-- A member of a wrapper stands for one of the trait, and none of its types says
    `Self`. -/
theorem selfless_of_mem_members (h : Wrapper.expand a (.trait t) = .ok e) (hw : w ∈ e.items)
    {member : WrapperMember} (hmember : member ∈ w.members) :
    ∃ item ∈ t.items, item.ForwardedAs member ∧ ∀ ty ∈ member.types, ¬ty.tokens.SaysSelf := by
  obtain ⟨-, -, hmembers⟩ := Wrapper.of_mem_expand h hw
  rw [hmembers] at hmember
  obtain ⟨item, hitem, hfound⟩ := List.mem_filterMap.mp hmember
  rcases item.wrapperMember_cases with ⟨hok, -⟩ | ⟨d, herror, -⟩ | ⟨found, hok, -, hstands⟩
  · rw [hok] at hfound
    cases hfound
  · rw [herror] at hfound
    cases hfound
  · rw [hok] at hfound
    cases hfound
    exact ⟨item, hitem, hstands, TraitItem.selfless_of_wrapperMember hok⟩

/-- **No type that says `Self` reaches a wrapper.**  In the code of a wrapper no field has
    a type that says `Self`, at any depth of groups, and neither has the closure of any
    method one among the types that it repeats.  Conversely, in a trait that is not
    generic and has a property, each method that has the form of one that is forwarded
    and says `Self` in one of its types is reported for exactly this, once: the other
    reports are those of the trait without the method. -/
theorem no_type_says_self (a : Attachment) (t : TraitDecl) :
    (∀ e w, Wrapper.expand a (.trait t) = .ok e → w ∈ e.items →
        w.tokens = w.code.tokens w
          ∧ (∀ f ∈ w.code.fields, ¬Tokens.SaysSelf f.ty)
          ∧ ∀ l ∈ w.code.captures, ∃ m ∈ t.methods, ∃ c : ForwardingCode,
            c.InPlace m.signature ∧ l = c.capture w.traitName ∧ w.Forwards c
              ∧ ∀ ts ∈ c.typesInNew, ¬Tokens.SaysSelf ts)
      ∧ (isGenericTrait t = false → t.methods.any TraitMethod.isProperty = true →
        ∀ pre m post place, t.items = pre ++ .method m :: post → m.SaysSelfAt place →
          ∃ before after, Wrapper.expand a (.trait t)
              = .ok { diagnostics := before ++ ⟨.unforwardable .selfType, place⟩ :: after }
            ∧ before ++ after = reportsOf { t with items := pre ++ post }) := by
  refine ⟨?_, ?_⟩
  · intro e w h hw
    refine ⟨w.tokens_eq_code, ?_, ?_⟩
    · intro f hf
      obtain ⟨member, hmember, rfl⟩ := List.mem_map.mp hf
      obtain ⟨item, -, hstands, hselfless⟩ := selfless_of_mem_members h hw hmember
      cases hstands with
      | property m ty _ => exact hselfless ty (List.mem_singleton_self ty)
      | method m _ =>
          -- the type of a closure's field is the first that `new` repeats
          rw [WrapperMember.fieldDecl_eq]
          have hplace := WrapperMember.inPlace_forwardingCode m.signature
          exact hplace.selfless_typesInNew hselfless _ (List.mem_cons_self ..)
    · intro l hl
      obtain ⟨member, hmember, rfl⟩ := List.mem_map.mp hl
      obtain ⟨hmember, hclosure⟩ := List.mem_filter.mp hmember
      obtain ⟨item, hitem, hstands, hselfless⟩ := selfless_of_mem_members h hw hmember
      cases hstands with
      | property => cases hclosure
      | method m hmarked =>
          have hm : m ∈ t.methods := List.mem_filterMap.mpr ⟨.method m, hitem, rfl⟩
          have hplace := WrapperMember.inPlace_forwardingCode m.signature
          exact ⟨m, hm, _, hplace, WrapperMember.letStatement_eq _ _ _,
            forwards_of_mem_members hmember, hplace.selfless_typesInNew hselfless⟩
  · intro hplain hmarked pre m post place hitems hsays
    obtain ⟨before, after, hreports, hrest⟩ :=
      reportsOf_insert hitems (TraitItem.wrapperMember_of_saysSelfAt hsays)
    refine ⟨before, after, ?_, hrest⟩
    rw [expand_of_reportsOf_ne_nil hplain hmarked (by simp [hreports]), hreports]

end Wrapper

/-- A camera with names that only look like the word. -/
def Sample.camera : Sample where
  source := "trait Camera \x7b #[property] fn owner(&self) -> Option<Selfie>; "
    ++ "async fn shoot(&self, at: [SELF; 2]) -> Vec<(u8, self::Picture)>; \x7d"

/-- A mirror that says the word deep inside of the types of its property and of two
    methods: in an argument, in the length of an array and in a macro call. -/
def Sample.mirror : Sample where
  source := "trait Mirror \x7b #[property] fn face(&self) -> Option<(u8, Vec<Self>)>; "
    ++ "fn turn(&self, by: [u8; \x7b size_of::<Self>() \x7d]); "
    ++ "async fn show(&self, to: &str) -> list![u8, (Self)]; \x7d"

/-- The camera gets a wrapper whose field and closure do not say `Self`, and each method
    of the mirror is reported. -/
theorem Sample.camera_mirror_says_self :
    (∃ t e w, Sample.camera.trait? = some t ∧ Wrapper.expand {} (.trait t) = .ok e
        ∧ w ∈ e.items ∧ w.code.fields.length = 2 ∧ (∀ f ∈ w.code.fields, ¬Tokens.SaysSelf f.ty)
        ∧ w.code.captures.length = 1
        ∧ ∀ l ∈ w.code.captures, ∃ c : ForwardingCode, w.Forwards c
          ∧ l = c.capture w.traitName ∧ ∀ ts ∈ c.typesInNew, ¬Tokens.SaysSelf ts)
      ∧ ∃ t, Sample.mirror.trait? = some t ∧ t.methods.length = 3
        ∧ Wrapper.isGenericTrait t = false ∧ t.methods.any TraitMethod.isProperty = true
        ∧ ∀ m ∈ t.methods, ∃ place pre post before after, m.SaysSelfAt place
          ∧ t.items = pre ++ .method m :: post
          ∧ Wrapper.expand {} (.trait t)
            = .ok { diagnostics := before ++ ⟨.unforwardable .selfType, place⟩ :: after }
          ∧ before ++ after = Wrapper.reportsOf { t with items := pre ++ post } := by
  refine ⟨?_, ?_⟩
  · have hcheck : (Sample.camera.trait?.any fun t => (Wrapper.expand {} (.trait t)).toOption.any
        fun e => e.items.head?.any fun w => decide (w.code.fields.length = 2
          ∧ w.code.captures.length = 1)) = true := by
      decide +kernel
    obtain ⟨t, ht, hall⟩ := (Option.any_eq_true _ _).mp hcheck
    obtain ⟨e, he, hall⟩ := (Option.any_eq_true _ _).mp hall
    obtain ⟨w, hw, hall⟩ := (Option.any_eq_true _ _).mp hall
    obtain ⟨hfields, hcaptures⟩ := of_decide_eq_true hall
    have he := eq_ok_of_toOption he
    have hw := List.mem_of_head? hw
    obtain ⟨-, hfree, hclosures⟩ := (Wrapper.no_type_says_self {} t).1 e w he hw
    refine ⟨t, e, w, ht, he, hw, hfields, hfree, hcaptures, ?_⟩
    intro l hl
    obtain ⟨m, -, c, -, hcapture, hforwards, htypes⟩ := hclosures l hl
    exact ⟨c, hforwards, hcapture, htypes⟩
  · have hcheck : (Sample.mirror.trait?.any fun t => decide (t.methods.length = 3
        ∧ Wrapper.isGenericTrait t = false ∧ t.methods.any TraitMethod.isProperty = true
        ∧ ∀ m ∈ t.methods, (m.isProperty = true ∧ m.isGetter = true
            ∧ m.property.ty.any (fun ty => decide ty.tokens.SaysSelf) = true)
          ∨ (m.isProperty = false ∧ m.borrowsSelf = true ∧ m.signature.isUnsafe = false
            ∧ m.signature.isGeneric = false ∧ m.signature.isVariadic = false
            ∧ (∀ ty ∈ m.signature.allTypes, ty.isImplTrait = false)
            ∧ ∃ ty ∈ m.signature.allTypes, ty.tokens.SaysSelf))) = true := by
      decide +kernel
    obtain ⟨t, ht, hall⟩ := (Option.any_eq_true _ _).mp hcheck
    obtain ⟨hlength, hplain, hmarked, hmethods⟩ := of_decide_eq_true hall
    refine ⟨t, ht, hlength, hplain, hmarked, ?_⟩
    intro m hm
    have hsays : ∃ place, m.SaysSelfAt place := by
      rcases hmethods m hm with ⟨hproperty, hgetter, hany⟩ |
        ⟨hunmarked, hborrows, hsafe, hnotGeneric, hbounded, hknown, ty, hty, hsays⟩
      · obtain ⟨ty, hty, hsays⟩ := (Option.any_eq_true _ _).mp hany
        exact ⟨ty.span, .property hproperty hgetter hty (of_decide_eq_true hsays)⟩
      · exact ⟨_, .method hunmarked hborrows hsafe hnotGeneric hbounded hknown hty hsays⟩
    obtain ⟨place, hsays⟩ := hsays
    obtain ⟨pre, post, hitems⟩ := List.append_of_mem (TraitDecl.mem_items_of_mem_methods hm)
    obtain ⟨before, after, hexpand, hrest⟩ :=
      (Wrapper.no_type_says_self {} t).2 hplain hmarked pre m post place hitems hsays
    exact ⟨place, pre, post, before, after, hsays, hitems, hexpand, hrest⟩

end DeclMacros
