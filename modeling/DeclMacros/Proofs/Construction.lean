import DeclMacros.Proofs.Setters

/-! # The constructor and the builder build the same

    A structure with both macros has two ways to be made: the constructor with
    the values that it asks for, followed by the setters that replace what it
    filled in, or a new builder, its setters in any order, and the build.

    The route: the parameters of the one and the fields of the other come from the
    same properties, and a property is asked for by the constructor exactly when its
    slot has to be set.  Then both ways give a record over these properties, and
    field by field the value is the same (`Parameter.heldAfter_eq_settled`): calls
    that set a field which has to be set play the part of arguments, and the other
    calls that of the setters.  All this is about functions that the run emits: those
    that are found in its program under the names of the constructor, of the setters
    and of the builder's members (`Item.exists_offeredBy`, `Item.exists_find?_new`,
    `Item.invoke_setter`). -/

set_option autoImplicit false

namespace DeclMacros

/-! ## What the constructor makes -/

namespace Parameter

/-- The text of the parameter's name. -/
def key (q : Parameter) : String := q.name.text

/-- The value that a parameter gets when the caller passes the values that were
    passed last in some calls. -/
def given (s : Surroundings) (calls : List (String × Value)) (q : Parameter) : Value :=
  match q.initial with
  | some i => i.eval s
  | none => (lastPassed calls q.key).getD .absent

end Parameter

section Arguments

variable {c : Constructor} {args : List Value} {calls : List (String × Value)}

/-- If the arguments are what is passed last in some calls, each parameter that the
    caller gives is bound to what is passed last under its name. -/
theorem Constructor.lookup_argument (hlength : args.length = c.inputs.length)
    (hpassed : ∀ i ∈ c.inputs.zip args, lastPassed calls i.1.name.text = some i.2)
    {q : Parameter} (hq : q ∈ c.inputs) :
    ∃ v, ((c.inputs.map Parameter.key).zip args).lookup q.key = some v
      ∧ lastPassed calls q.key = some v := by
  obtain ⟨r, v, hlookup, hmem, hkey⟩ := exists_lookup_zip Parameter.key hlength hq
  refine ⟨v, hlookup, ?_⟩
  rw [← hkey]
  exact hpassed (r, v) hmem

/-- A constructor whose arguments are what is passed last in some calls makes the
    record of these values and of those that it fills in. -/
theorem Constructor.call_eq (hlength : args.length = c.inputs.length)
    (hpassed : ∀ i ∈ c.inputs.zip args, lastPassed calls i.1.name.text = some i.2)
    (s : Surroundings) :
    c.call s args = .ok (.record c.target.name.text
      (entries Parameter.key (Parameter.given s calls) c.params
        ++ phantomEntries c.phantoms)) := by
  rw [Constructor.call, if_pos hlength, Constructor.literal]
  refine literalValue_ok ?_ c.target.name c.phantoms
  intro q hq
  rw [Parameter.init, Parameter.given]
  cases hinitial : q.initial with
  | some i => rfl
  | none =>
      have hinput : q ∈ c.inputs :=
        List.mem_filter.mpr ⟨hq, by rw [Parameter.isRequired, hinitial]; rfl⟩
      obtain ⟨v, hlookup, hlast⟩ := Constructor.lookup_argument hlength hpassed hinput
      show Except.map _ (Halt.orUndefined q.name
        (((c.inputs.map Parameter.key).zip args).lookup q.key)) = _
      rw [hlookup, hlast]
      rfl

end Arguments

/-- For a property that an attached constructor fills in, the setter is found among
    those of the run. -/
theorem Item.find?_setters {s : StructDecl} {ps : List Property} {steps : List MacroStep}
    (hread : (Item.struct s).properties = .ok ps)
    (hkeys : ((Property.typed ps).map Property.key).Nodup)
    (hargs : ∀ a ∈ s.attrs, a.argumentsRead = true) (hrun : (Item.struct s).steps = .ok steps)
    {k : ConstructorKind} (hamong : k.attached.isAmong s.attrs = true) {p : Property}
    (hp : p ∈ Property.typed ps) (hfills : k.fills p = true) :
    ∃ t, (Item.struct s).setters.find? (fun t => t.name.text = "with_" ++ p.key) = some t
      ∧ t.field.text = p.key ∧ t.wraps = false := by
  rw [Item.setters_eq_emitted hread hargs hrun]
  obtain ⟨name, ty, hname, hty⟩ := Property.exists_of_mem_typed hp
  have hx : p.setter? = some { name := name.setterName, field := name, ty := ty } := by
    rw [Property.setter?, hname, hty]
  have hmem := (mem_emitted_iff hkeys s.attrs _).mpr ⟨p, hp, ⟨k, hamong, hfills⟩, hx⟩
  cases hfound : (emitted ps s.attrs).find? (fun t => t.name.text = "with_" ++ p.key) with
  | none =>
      have hnone := List.find?_eq_none.mp hfound _ hmem
      exact absurd (decide_eq_true (Property.setter?_spec hx).1) hnone
  | some t =>
      -- whatever setter is found under the name is that of the same property
      have hnamed : t.name.text = "with_" ++ p.key := by simpa using List.find?_some hfound
      obtain ⟨q, hq, -, ht⟩ :=
        (mem_emitted_iff hkeys s.attrs t).mp (List.mem_of_find?_eq_some hfound)
      obtain ⟨hname', hfield, hwraps⟩ := Property.setter?_spec ht
      have hkey : q.key = p.key := with_injective (hname'.symm.trans hnamed)
      exact ⟨t, rfl, hfield.trans hkey, hwraps⟩

/-! ## Field by field -/

/-- A property has no value to be filled in exactly when it has none of its own
    and cannot be absent. -/
theorem Property.ownInitial_isNone (p : Property) :
    p.ownInitial.isNone = (p.initial.isNone && !p.isOptional) := by
  rw [Property.ownInitial]
  cases p.initial with
  | some e => rfl
  | none => cases p.isOptional <;> rfl

/-- The value that is filled in is the property's own, or absence. -/
theorem Property.eval_ownInitial {p : Property} {i : Initial} (h : p.ownInitial = some i)
    (s : Surroundings) : i.eval s = (p.initial.map s.constant).getD .absent := by
  rw [Property.ownInitial] at h
  cases hinitial : p.initial with
  | some e =>
      rw [hinitial] at h
      rw [← Option.some.inj h]
      rfl
  | none =>
      rw [hinitial] at h
      cases hoptional : p.isOptional with
      | true => rw [hoptional] at h; rw [← Option.some.inj h]; rfl
      | false => rw [hoptional] at h; exact nomatch h

/-- The calls that set fields which need not be set. -/
def Builder.overrides (b : Builder) (calls : List (String × Value)) : List (String × Value) :=
  calls.filter fun c => b.fields.any fun f => !f.isRequired && f.name.text = c.1

/-- A field need not be set exactly when the constructor fills in its property. -/
theorem Builder.any_overridable {b : Builder} {ps : List Property}
    (hfields : b.fields = (Property.typed ps).filterMap BuilderField.ofProperty?)
    (hkeys : ((Property.typed ps).map Property.key).Nodup) {p : Property}
    (hp : p ∈ Property.typed ps) :
    (b.fields.any fun f => !f.isRequired && f.name.text = p.key) = p.ownInitial.isSome := by
  rw [Bool.eq_iff_iff, List.any_eq_true, hfields, ← Option.not_isNone, p.ownInitial_isNone]
  constructor
  · rintro ⟨f, hf, hboth⟩
    obtain ⟨r, hr, hrf⟩ := List.mem_filterMap.mp hf
    rw [Bool.and_eq_true, decide_eq_true_eq] at hboth
    have hsame : r = p := Property.eq_of_key_eq hkeys hr hp
      ((BuilderField.ofProperty?_run hrf []).1.symm.trans hboth.2)
    rw [← hsame, ← (BuilderField.ofProperty?_spec hrf).2.2.1]
    exact hboth.1
  · intro hfills
    obtain ⟨f, hf, hpf⟩ := exists_mem_of_forall₂ (forall₂_builderFields ps).flip hp
    refine ⟨f, hf, ?_⟩
    rw [Bool.and_eq_true, decide_eq_true_eq, (BuilderField.ofProperty?_spec hpf).2.2.1]
    exact ⟨hfills, (BuilderField.ofProperty?_run hpf []).1⟩

/-- A parameter has the key of its property. -/
theorem Parameter.key_eq {k : ConstructorKind} {p : Property} {q : Parameter}
    (h : Parameter.ofProperty? k.initial p = some q) : q.key = p.key := by
  rw [Property.key, (Parameter.ofProperty?_eq_some_iff.mp h).1]
  rfl

/-- No property is missing from calls that pass the arguments of the constructor:
    one that has to be set is among its inputs. -/
theorem Constructor.not_isMissing_of_arguments {c : Constructor} {args : List Value}
    {calls : List (String × Value)} (hlength : args.length = c.inputs.length)
    (hpassed : ∀ i ∈ c.inputs.zip args, lastPassed calls i.1.name.text = some i.2)
    {p : Property} {q : Parameter} (hq : q ∈ c.params)
    (hpq : Parameter.ofProperty? ConstructorKind.memberwise.initial p = some q) :
    ¬ p.isMissing calls = true := by
  intro hmissing
  rw [Property.isMissing, ← p.ownInitial_isNone, Bool.and_eq_true] at hmissing
  have hinput : q ∈ c.inputs := by
    refine List.mem_filter.mpr ⟨hq, ?_⟩
    rw [Parameter.isRequired, (Parameter.ofProperty?_eq_some_iff.mp hpq).2.2]
    exact hmissing.1
  obtain ⟨v, -, hlast⟩ := Constructor.lookup_argument hlength hpassed hinput
  have hnever : lastPassed calls q.key = none := by
    refine lastPassed_eq_none_iff.mpr ?_
    rw [Parameter.key_eq hpq]
    simpa using hmissing.2
  rw [hlast] at hnever
  cases hnever

/-- What the setters leave in a field that the constructor made is what the calls
    settle on: calls for a field that the constructor fills in are kept as setter
    calls, and those for other fields come in as arguments. -/
theorem Parameter.heldAfter_eq_settled {p : Property} {q : Parameter}
    (h : Parameter.ofProperty? ConstructorKind.memberwise.initial p = some q)
    {calls : List (String × Value)} {kept : String × Value → Bool}
    (hkept : ∀ c ∈ calls, c.1 = p.key → kept c = p.ownInitial.isSome) (s : Surroundings) :
    heldAfter (calls.filter kept) q.key false (q.given s calls) = p.settled s calls := by
  have hown : q.initial = p.ownInitial := (Parameter.ofProperty?_eq_some_iff.mp h).2.2
  rw [heldAfter, Parameter.given, Property.settled, Parameter.key_eq h, hown]
  cases hi : p.ownInitial with
  | none =>
      rw [hi] at hkept
      have hdropped : lastPassed (calls.filter kept) p.key = none := by
        refine lastPassed_eq_none_iff.mpr ?_
        intro c hc hck
        obtain ⟨hmem, htrue⟩ := List.mem_filter.mp hc
        rw [hkept c hmem hck] at htrue
        cases htrue
      have hnone : p.initial = none := by
        have := p.ownInitial_isNone
        rw [hi] at this
        exact Option.isNone_iff_eq_none.mp (Bool.and_eq_true_iff.mp this.symm).1
      rw [hdropped, hnone]
      rfl
  | some i =>
      rw [hi] at hkept
      rw [lastPassed_filter hkept, ← Property.eval_ownInitial hi s]
      cases lastPassed calls p.key <;> rfl

/-! ## The two ways -/

section TwoWays

variable {ps : List Property}

/-- The parameters of typed properties, one by one. -/
theorem forall₂_parameters (k : ConstructorKind) (ps : List Property) :
    List.Forall₂ (fun p q => Parameter.ofProperty? k.initial p = some q) (Property.typed ps)
      (k.parameters (Property.typed ps)) := by
  refine forall₂_filterMap ?_
  intro p hp
  obtain ⟨name, ty, hname, hty⟩ := Property.exists_of_mem_typed hp
  rw [Parameter.ofProperty?, hname, hty]
  rfl

/-- The constructor asks for the fields whose slots have to be set, in order. -/
theorem Constructor.inputs_eq_required {c : Constructor} {b : Builder}
    (hparams : c.params = ConstructorKind.memberwise.parameters (Property.typed ps))
    (hfields : b.fields = (Property.typed ps).filterMap BuilderField.ofProperty?) :
    c.inputs.map (fun q => (q.name, q.ty))
      = (b.fields.filter BuilderField.isRequired).map fun f => (f.name, f.ty) := by
  rw [Constructor.inputs, hparams, hfields, ConstructorKind.parameters, List.filter_filterMap,
    List.filter_filterMap, List.map_filterMap, List.map_filterMap]
  refine List.filterMap_congr ?_
  intro p hp
  obtain ⟨q, -, hq⟩ := exists_mem_of_forall₂ (forall₂_parameters .memberwise ps).flip hp
  obtain ⟨f, -, hf⟩ := exists_mem_of_forall₂ (forall₂_builderFields ps).flip hp
  obtain ⟨hqname, hqty, hqinitial⟩ := Parameter.ofProperty?_eq_some_iff.mp hq
  obtain ⟨hfname, hfty, hfrequired, -⟩ := BuilderField.ofProperty?_spec hf
  have hrequired : q.isRequired = f.isRequired := by
    rw [hfrequired, ← p.ownInitial_isNone, Parameter.isRequired, hqinitial]
    rfl
  have hname : q.name = f.name := Option.some.inj (hqname.symm.trans hfname)
  have hty : q.ty = f.ty := Option.some.inj (hqty.symm.trans hfty)
  rw [hq, hf, Option.filter_some, Option.filter_some, hrequired]
  cases f.isRequired with
  | false => rfl
  | true =>
      show some (q.name, q.ty) = some (f.name, f.ty)
      rw [hname, hty]

/-- So these are the parameters that are printed. -/
theorem Constructor.params_method {c : Constructor} {b : Builder}
    (hparams : c.params = ConstructorKind.memberwise.parameters (Property.typed ps))
    (hfields : b.fields = (Property.typed ps).filterMap BuilderField.ofProperty?) :
    c.method.params
      = (b.fields.filter BuilderField.isRequired).map fun f => (f.name, f.ty.tokens) := by
  have htokens := congrArg (List.map fun x : Ident × Ty => (x.1, x.2.tokens))
    (Constructor.inputs_eq_required hparams hfields)
  rw [List.map_map, List.map_map] at htokens
  exact htokens

end TwoWays

/-- A field of a builder is one of a property. -/
theorem Builder.IsFor.exists_property {s : StructDecl} {ps : List Property} {b : Builder}
    (hb : b.IsFor s ps) {key : String} (h : ∃ f ∈ b.fields, f.name.text = key) :
    ∃ p ∈ Property.typed ps, p.key = key := by
  obtain ⟨f, hf, hkey⟩ := h
  rw [hb.fields] at hf
  obtain ⟨p, hp, hpf⟩ := List.mem_filterMap.mp hf
  exact ⟨p, hp, (BuilderField.ofProperty?_run hpf []).1.symm.trans hkey⟩

/-- The structure of the values that calls settle on. -/
def StructDecl.settled (s : StructDecl) (sur : Surroundings) (ps : List Property)
    (calls : List (String × Value)) : Value :=
  .record s.name.text (entries Property.key (Property.settled sur calls) (Property.typed ps)
    ++ phantomEntries (Property.phantoms ps))

section SameValue

variable (sur : Surroundings) {s : StructDecl} {ps : List Property} {c : Constructor} {b : Builder}
  (hread : (Item.struct s).properties = .ok ps)
  (hnames : ((s.fields.list.filterMap Field.name).map Ident.text).Nodup)
  (hc : c.IsFor s ps) (hkind : c.kind = .memberwise) (hb : b.IsFor s ps)
  {args : List Value} {calls : List (String × Value)} (hlength : args.length = c.inputs.length)
  (hcalls : ∀ call ∈ calls, ∃ f ∈ b.fields, f.name.text = call.1)
  (hpassed : ∀ i ∈ c.inputs.zip args, lastPassed calls i.1.name.text = some i.2)

include hread hnames hc hkind hb hlength hcalls hpassed

/-- When calls of the builder's setters end with the arguments of the constructor, every field
    that has to be set is set, since it is one of the constructor's inputs. -/
theorem Builder.run_eq_settled
    (hmarker : ∀ p ∈ Property.typed ps, p.key ≠ Builder.markerName.text) :
    b.run sur calls = .ok (s.settled sur ps calls) := by
  have hnone : (Property.typed ps).find? (Property.isMissing calls) = none := by
    refine List.find?_eq_none.mpr ?_
    intro p hp hmissing
    obtain ⟨q, hq, hpq⟩ := exists_mem_of_forall₂ (forall₂_parameters .memberwise ps).flip hp
    have hparam : q ∈ c.params := by rwa [hc.params, hkind]
    exact Constructor.not_isMissing_of_arguments hlength hpassed hparam hpq hmissing
  rw [Builder.run_properties hb.fields (Property.nodup_key_typed hread hnames) hmarker
    (fun call hcall => hb.exists_property (hcalls call hcall)) sur, hnone, hb.target, hb.phantoms]
  rfl

/-- The constructor gives the same when setters are called for the fields that it fills in. -/
theorem Constructor.callAll_overrides_eq_settled {steps : List MacroStep}
    (hargs : ∀ a ∈ s.attrs, a.argumentsRead = true) (hrun : (Item.struct s).steps = .ok steps)
    (hamong : ConstructorKind.memberwise.attached.isAmong s.attrs = true) :
    (c.call sur args >>= Setter.callAll (Item.struct s).setters
      ((b.overrides calls).map fun o => ("with_" ++ o.1, o.2)))
      = .ok (s.settled sur ps calls) := by
  have hkeys := Property.nodup_key_typed hread hnames
  have hkept : ∀ p ∈ Property.typed ps, ∀ call ∈ calls, call.1 = p.key →
      (b.fields.any fun f => !f.isRequired && f.name.text = call.1) = p.ownInitial.isSome := by
    intro p hp call _ hkey
    rw [hkey]
    exact Builder.any_overridable hb.fields hkeys hp
  have hsetters : ∀ o ∈ b.overrides calls,
      ∃ t, (Item.struct s).setters.find? (fun t => t.name.text = "with_" ++ o.1) = some t
        ∧ t.field.text = o.1 ∧ ∀ q ∈ c.params, q.key = o.1 → t.wraps = false := by
    intro o ho
    obtain ⟨hcall, hover⟩ := List.mem_filter.mp ho
    obtain ⟨p, hp, hkey⟩ := hb.exists_property (hcalls o hcall)
    rw [hkept p hp o hcall hkey.symm] at hover
    obtain ⟨t, ht, hfield, hwraps⟩ := Item.find?_setters hread hkeys hargs hrun hamong hp hover
    rw [hkey] at ht hfield
    exact ⟨t, ht, hfield, fun _ _ _ => hwraps⟩
  -- no setter reaches the fields without data, which stand last
  have htail : ∀ o ∈ b.overrides calls, ∀ e ∈ phantomEntries (Property.phantoms ps),
      e.1 ≠ o.1 := by
    intro o ho e he
    obtain ⟨p, hp, hkey⟩ := hb.exists_property (hcalls o (List.mem_of_mem_filter ho))
    obtain ⟨name, hname, rfl⟩ := List.mem_map.mp he
    rw [← hkey]
    exact Property.key_ne_of_mem_phantoms hread hnames hp hname
  have hsame : entries Parameter.key (fun q => heldAfter (b.overrides calls) q.key false
        (q.given sur calls)) c.params
      = entries Property.key (Property.settled sur calls) (Property.typed ps) := by
    rw [hc.params, hkind]
    symm
    refine map_congr_of_forall₂ ?_ ((List.forall₂_and_left _ _).mpr
      ⟨fun p hp => hp, forall₂_parameters .memberwise ps⟩)
    rintro p q ⟨hp, hpq⟩
    rw [← Parameter.key_eq hpq, ← Parameter.heldAfter_eq_settled hpq (hkept p hp) sur]
    rfl
  rw [Constructor.call_eq hlength hpassed sur, hc.target, hc.phantoms]
  show Setter.callAll _ _ _ = _
  rw [callAll_entries Parameter.key ("with_" ++ ·) hsetters htail s.name.text
    (Parameter.given sur calls), hsame]
  rfl

end SameValue

/-! ## The program of the run -/

/-- If the first element that passes a test yields what is looked for, or no other that passes it
    does, and none that does not, then it is what is found. -/
theorem find?_flatMap_of_first {α β : Type} {f : α → List β} {test : α → Bool} {p : β → Bool}
    {xs : List α} {x : α} (hfirst : xs.find? test = some x)
    (hother : ∀ y ∈ xs, ¬ test y = true → (f y).find? p = none)
    (hsame : ∀ y ∈ xs, test y = true → (f x).find? p = none → (f y).find? p = none) :
    (xs.flatMap f).find? p = (f x).find? p := by
  induction xs with
  | nil => cases hfirst
  | cons y ys ih =>
      have hothers : ∀ z ∈ ys, ¬ test z = true → (f z).find? p = none :=
        fun z hz => hother z (List.mem_cons_of_mem y hz)
      have hsames : ∀ z ∈ ys, test z = true → (f x).find? p = none → (f z).find? p = none :=
        fun z hz => hsame z (List.mem_cons_of_mem y hz)
      rw [List.flatMap_cons, List.find?_append]
      by_cases htest : test y = true
      · rw [List.find?_cons_of_pos htest] at hfirst
        obtain rfl := Option.some.inj hfirst
        cases hfound : (f y).find? p with
        | some z => rfl
        | none =>
            rw [Option.none_or, List.find?_flatMap, List.findSome?_eq_none_iff]
            intro z hz
            by_cases hz' : test z = true
            · exact hsames z hz hz' hfound
            · exact hothers z hz hz'
      · rw [List.find?_cons_of_neg htest] at hfirst
        rw [hother y (List.mem_cons_self ..) htest, Option.none_or]
        exact ih hfirst hothers hsames

namespace Generated

/-- It is a builder. -/
def isBuilder : Generated → Bool
  | .builder _ => true
  | _ => false

/-- It is a constructor that is named `new`. -/
def isMemberwise : Generated → Bool
  | .constructor c => c.kind = .memberwise
  | _ => false

end Generated

section Run

variable {s : StructDecl} {ps : List Property}

/-- A name that is neither that of the constructor nor that of a setter is not among the functions
    of a constructor. -/
theorem Constructor.find?_methods_eq_none {c : Constructor} {name : String}
    (hsetters : ∀ t ∈ c.setters, ∃ key, t.name.text = "with_" ++ key)
    (hname : ¬ "with_".toList.isPrefixOf name.toList = true) (hne : c.kind.function ≠ name) :
    c.methods.find? (fun m => m.name.text = name) = none := by
  refine List.find?_eq_none.mpr ?_
  intro m hm
  rw [decide_eq_true_eq]
  rintro rfl
  rcases List.mem_cons.mp hm with rfl | hm
  · exact hne rfl
  · obtain ⟨t, ht, rfl⟩ := List.mem_map.mp hm
    obtain ⟨key, hkey⟩ := hsetters t ht
    exact hname (Method.isSetter_of_name (m := t.method c.vis) hkey)

/-- Builders for the same structure have functions of the same names. -/
theorem Builder.IsFor.find?_methods_eq_none_iff {b b' : Builder} (h : b.IsFor s ps)
    (h' : b'.IsFor s ps) (name : String) :
    b.methods.find? (fun m => m.name.text = name) = none
      ↔ b'.methods.find? (fun m => m.name.text = name) = none := by
  have hsetters : b.setters = b'.setters := by
    rw [Builder.setters, Builder.setters, h.fields, h'.fields]
  rw [b.find?_methods, b'.find?_methods, hsetters]
  by_cases hnew : name = "new"
  · simp [hnew]
  · by_cases hbuild : name = "build" <;> simp [hnew, hbuild]

/-- The setters of a run are named as such. -/
def Item.NamesSetters (item : Item) : Prop :=
  ∀ g ∈ item.generated, ∀ t ∈ g.setters, ∃ key, t.name.text = "with_" ++ key

section Builder

variable {b : Builder} (hread : (Item.struct s).properties = .ok ps)
  (hfirst : (Item.struct s).generated.find? Generated.isBuilder = some (.builder b))

include hread hfirst

/-- The function that makes a builder is that of the first builder in the run. -/
theorem Item.find?_builder (hsetters : (Item.struct s).NamesSetters) :
    ((Item.struct s).code.methods s.name.text).find? (fun m => m.name.text = "builder")
      = some b.entryMethod := by
  rw [Item.methods_code hread, find?_flatMap_of_first hfirst]
  · rfl
  · intro g hg hother
    cases g with
    -- the functions of a constructor are named `new`, `stub` or as setters
    | constructor c =>
        refine Constructor.find?_methods_eq_none (hsetters _ hg) (by decide) ?_
        cases c.kind <;> decide
    | builder => exact absurd rfl hother
    | _ => rfl
  · intro g _ _ hnone
    cases hnone

/-- And so are the functions of the builder. -/
theorem Item.find?_builderMethods (name : String) :
    ((Item.struct s).code.methods b.name.text).find? (fun m => m.name.text = name)
      = b.methods.find? fun m => m.name.text = name := by
  have hfor := Item.builder_of_mem_generated hread (List.mem_of_find?_eq_some hfirst)
  have hown := Builder.methods_code hfor.name_ne_target
  rw [Item.code, Program.methods_flatMap, find?_flatMap_of_first hfirst]
  · exact congrArg (List.find? _) hown
  · intro g hg hother
    obtain ⟨m, -, hg⟩ := Item.isFor_of_mem_generated hread hg
    cases g with
    | constructor c =>
        have hne : c.target.name.text ≠ b.name.text := by
          rw [hg.2.target]
          exact hfor.name_ne.symm
        show (c.code.methods _).find? _ = none
        simp [Constructor.code, Program.methods, hne]
    | builder => exact absurd rfl hother
    | conversion c =>
        have hne : c.target.name.text ≠ b.name.text := by
          rw [hg.target]
          exact hfor.name_ne.symm
        show (c.code.methods _).find? _ = none
        simp [Conversion.code, Program.methods, hne]
    | accessors => exact hg.elim
    | wrapper => exact hg.elim
  · intro g hg htest hnone
    cases g with
    | builder b' =>
        -- a later builder has no function that the first one lacks
        have hfor' := Item.builder_of_mem_generated hread hg
        have hname : b'.name = b.name := Except.ok.inj (hfor'.name.symm.trans hfor.name)
        show (b'.code.methods b.name.text).find? _ = none
        rw [← hname, Builder.methods_code hfor'.name_ne_target]
        exact (hfor'.find?_methods_eq_none_iff hfor name).mpr (hown ▸ hnone)
    | _ => cases htest

end Builder

/-- The program of a run in which there is a builder offers a builder for the structure. -/
theorem Item.exists_offeredBy (hread : (Item.struct s).properties = .ok ps)
    (hsetters : (Item.struct s).NamesSetters) {b : Builder}
    (hb : Generated.builder b ∈ (Item.struct s).generated) :
    ∃ first : Builder, first.IsFor s ps ∧ first.OfferedBy (Item.struct s).code := by
  obtain ⟨g, hfirst⟩ : ∃ g, (Item.struct s).generated.find? Generated.isBuilder = some g :=
    Option.isSome_iff_exists.mp (List.find?_isSome.mpr ⟨_, hb, rfl⟩)
  have htest := List.find?_some hfirst
  cases g with
  | builder first =>
      have hfor := Item.builder_of_mem_generated hread (List.mem_of_find?_eq_some hfirst)
      refine ⟨first, hfor, ?_, Item.find?_builderMethods hread hfirst⟩
      rw [hfor.target]
      exact Item.find?_builder hread hfirst hsetters
  | _ => cases htest

/-- The program of a run in which there is a constructor has one for the structure. -/
theorem Item.exists_find?_new (hread : (Item.struct s).properties = .ok ps)
    (hsetters : (Item.struct s).NamesSetters) {c : Constructor}
    (hc : Generated.constructor c ∈ (Item.struct s).generated) (hkind : c.kind = .memberwise) :
    ∃ first : Constructor, first.IsFor s ps ∧ first.kind = .memberwise
      ∧ ((Item.struct s).code.methods s.name.text).find? (fun m => m.name.text = "new")
        = some first.method := by
  obtain ⟨g, hfirst⟩ : ∃ g, (Item.struct s).generated.find? Generated.isMemberwise = some g :=
    Option.isSome_iff_exists.mp (List.find?_isSome.mpr ⟨_, hc, decide_eq_true hkind⟩)
  have htest := List.find?_some hfirst
  cases g with
  | constructor first =>
      have hfor := Item.constructor_of_mem_generated hread (List.mem_of_find?_eq_some hfirst)
      have hmemberwise : first.kind = .memberwise := of_decide_eq_true htest
      have hfound : first.methods.find? (fun m => m.name.text = "new") = some first.method := by
        refine List.find?_cons_of_pos (decide_eq_true ?_)
        rw [Constructor.method, hmemberwise]
        rfl
      refine ⟨first, hfor.2, hmemberwise, ?_⟩
      rw [Item.methods_code hread, find?_flatMap_of_first hfirst]
      · exact hfound
      · intro g hg hother
        cases g with
        | constructor c =>
            refine Constructor.find?_methods_eq_none (hsetters _ hg) (by decide) ?_
            cases hk : c.kind with
            | memberwise => exact absurd (decide_eq_true hk) hother
            | stub => decide
        | _ => rfl
      · intro g _ _ hnone
        cases hfound.symm.trans hnone
  | _ => cases htest

/-- A function of the structure that is named as a setter is the setter of that name. -/
theorem Item.invoke_setter (sur : Surroundings) {steps : List MacroStep}
    (hread : (Item.struct s).properties = .ok ps)
    (hkeys : ((Property.typed ps).map Property.key).Nodup)
    (hargs : ∀ a ∈ s.attrs, a.argumentsRead = true) (hrun : (Item.struct s).steps = .ok steps)
    (key : String) (v : Value) {self : Value} (htag : self.tag? = some s.name.text) :
    (Item.struct s).code.invoke sur ("with_" ++ key) [v] self
      = Setter.call (Item.struct s).setters ("with_" ++ key) self v := by
  have hfind : (((Item.struct s).code.methods s.name.text).find?
        fun m => m.name.text = "with_" ++ key).map Method.unscoped
      = ((Item.struct s).setters.find? fun t => t.name.text = "with_" ++ key).map
        (Setter.method []) := by
    have hsetters := congrArg (List.find? fun m => m.name.text = "with_" ++ key)
      (Item.filter_methods_code hread hkeys hargs hrun)
    rw [List.find?_map, List.find?_map, List.find?_filter] at hsetters
    refine Eq.trans ?_ hsetters
    congr 2
    funext m
    by_cases hname : m.name.text = "with_" ++ key
    · simp [Method.unscoped, hname, Method.isSetter_of_name hname]
    · simp [Method.unscoped, hname]
  rw [Program.invoke, htag, Setter.call]
  show Program.call sur _ s.name.text _ _ _ = _
  rw [Program.call, Method.callNamed]
  cases hfound : (Item.struct s).setters.find? fun t => t.name.text = "with_" ++ key with
  | none =>
      rw [hfound] at hfind
      rw [Option.map_eq_none_iff.mp hfind]
  | some t =>
      rw [hfound] at hfind
      obtain ⟨m, hm, hmt⟩ := Option.map_eq_some_iff.mp hfind
      rw [hm]
      show m.unscoped.call sur _ _ _ _ = _
      rw [hmt]
      exact t.call_method sur _ _ [] self v

/-- What the program makes by the constructor and calls of setters is what these make. -/
theorem Item.construct_eq_callAll (sur : Surroundings) {steps : List MacroStep} {c : Constructor}
    (hread : (Item.struct s).properties = .ok ps)
    (hkeys : ((Property.typed ps).map Property.key).Nodup)
    (hargs : ∀ a ∈ s.attrs, a.argumentsRead = true) (hrun : (Item.struct s).steps = .ok steps)
    (hc : c.IsFor s ps)
    (hnew : ((Item.struct s).code.methods s.name.text).find? (fun m => m.name.text = "new")
      = some c.method)
    {args : List Value} {calls : List (String × Value)} (hlength : args.length = c.inputs.length)
    (hpassed : ∀ i ∈ c.inputs.zip args, lastPassed calls i.1.name.text = some i.2)
    (overrides : List (String × Value)) :
    ((Item.struct s).code.call sur s.name.text "new" none args
        >>= (Item.struct s).code.invokeAll sur (overrides.map fun o => ("with_" ++ o.1, o.2)))
      = (c.call sur args >>= Setter.callAll (Item.struct s).setters
          (overrides.map fun o => ("with_" ++ o.1, o.2))) := by
  have hcall : (Item.struct s).code.call sur s.name.text "new" none args = c.call sur args := by
    rw [Program.call, Method.callNamed, hnew, ← c.call_method sur, hc.target]
  have htag : ∀ fields, (Value.record c.target.name.text fields).tag? = some s.name.text := by
    intro fields
    rw [hc.target]
    rfl
  -- what the constructor makes is of the structure's type, and setters keep it so
  rw [hcall, Constructor.call_eq hlength hpassed sur]
  refine Program.invokeAll_eq_callAll ?_ (htag _)
  intro o ho self htag
  obtain ⟨o, -, rfl⟩ := List.mem_map.mp ho
  exact Item.invoke_setter sur hread hkeys hargs hrun o.1 o.2 htag

end Run

/-- **Two ways to the same value.**  For a structure with different names, none of which is that of
    a member of the builder itself, on which both a constructor and a builder are expanded, whatever
    other macros are attached in whatever order: in the program that the run emits, the constructor
    asks, in order, for the fields whose slots have to be set.  And when calls of the builder's
    setters end with the arguments of the constructor in these fields, then the build succeeds, with
    the value that the constructor and, in their order, the setters for the calls on the other
    fields give. -/
theorem Item.run_builder_eq_call_constructor (sur : Surroundings) (s : StructDecl)
    (ps : List Property) (c : Constructor) (b : Builder)
    (hread : (Item.struct s).properties = .ok ps)
    (hnames : ((s.fields.list.filterMap Field.name).map Ident.text).Nodup)
    (hown : ∀ name ∈ s.fields.list.filterMap Field.name, name.text ∉ Builder.ownNames)
    (hargs : ∀ a ∈ s.attrs, a.argumentsRead = true)
    (hc : Generated.constructor c ∈ (Item.struct s).generated) (hkind : c.kind = .memberwise)
    (hb : Generated.builder b ∈ (Item.struct s).generated) :
    (Item.struct s).EmitsProgram (Item.struct s).code
      ∧ (∃ m, ((Item.struct s).code.methods s.name.text).find? (fun m => m.name.text = "new")
          = some m
        ∧ m.params = (b.fields.filter BuilderField.isRequired).map fun f => (f.name, f.ty.tokens))
      ∧ ∀ (args : List Value) (overrides calls : List (String × Value)),
        args.length = c.inputs.length →
        (∀ call ∈ calls, ∃ f ∈ b.fields, f.name.text = call.1) →
        (∀ i ∈ c.inputs.zip args, lastPassed calls i.1.name.text = some i.2) →
        b.overrides calls = overrides →
        ∃ v, (Item.struct s).code.build sur s.name.text calls = .ok v
          ∧ ((Item.struct s).code.call sur s.name.text "new" none args
              >>= (Item.struct s).code.invokeAll sur
                (overrides.map fun o => ("with_" ++ o.1, o.2))) = .ok v := by
  obtain ⟨hamong, hcfor⟩ := Item.constructor_of_mem_generated hread hc
  have hbfor := Item.builder_of_mem_generated hread hb
  obtain ⟨⟨steps, hrun⟩, -⟩ := Item.exists_turn_of_mem_generated hread hc
  have hkeys := Property.nodup_key_typed hread hnames
  have hkey : ∀ own ∈ Builder.ownNames, ∀ p ∈ Property.typed ps, p.key ≠ own := by
    intro own hmem
    refine Property.key_ne_of_mem_typed hread ?_
    intro name hname hsame
    exact hown name hname (hsame ▸ hmem)
  have hsetters : (Item.struct s).NamesSetters :=
    fun g hg t ht => Item.name_of_mem_setters hread hkeys hargs hrun hg ht
  -- the functions that are found are those of the first builder and the first constructor
  obtain ⟨b', hbfor', hoffered⟩ := Item.exists_offeredBy hread hsetters hb
  obtain ⟨c', hcfor', hkind', hnew⟩ := Item.exists_find?_new hread hsetters hc hkind
  have hfields : b'.fields = b.fields := hbfor'.fields.trans hbfor.fields.symm
  have hinputs : c'.inputs = c.inputs := by
    rw [Constructor.inputs, Constructor.inputs, hcfor'.params, hcfor.params, hkind, hkind']
  have hoverrides (calls : List (String × Value)) : b'.overrides calls = b.overrides calls := by
    rw [Builder.overrides, Builder.overrides, hfields]
  refine ⟨Item.emitsProgram_code hrun,
    ⟨c'.method, hnew, Constructor.params_method (hkind' ▸ hcfor'.params) hbfor.fields⟩, ?_⟩
  rintro args _ calls hlength hcalls hpassed rfl
  rw [hkind] at hamong
  rw [← hinputs] at hlength hpassed
  rw [← hfields] at hcalls
  have hbuilt := Builder.run_eq_settled sur hread hnames hcfor' hkind' hbfor' hlength hcalls hpassed
    (hkey _ (by simp [Builder.ownNames]))
  have hset := Constructor.callAll_overrides_eq_settled sur hread hnames hcfor' hkind' hbfor'
    hlength hcalls hpassed hargs hrun hamong
  have hbuild := Builder.build_eq_run sur hoffered
    (hbfor'.key_ne (hkey "new" (by simp [Builder.ownNames])))
    (hbfor'.key_ne (hkey "build" (by simp [Builder.ownNames]))) calls
  rw [hbfor'.target] at hbuild
  rw [hoverrides] at hset
  exact ⟨_, hbuild.trans hbuilt, (Item.construct_eq_callAll sur hread hkeys hargs hrun hcfor' hnew
    hlength hpassed _).trans hset⟩

/-- A request is made in both ways, with a timeout that is set twice and with its
    address set in between. -/
theorem Sample.request_run_builder_eq_call_constructor :
    ∃ s ps c b, Sample.request.item? = some (.struct s)
      ∧ (Item.struct s).properties = .ok ps
      ∧ Generated.constructor c ∈ (Item.struct s).generated ∧ c.kind = .memberwise
      ∧ Generated.builder b ∈ (Item.struct s).generated
      ∧ c.inputs.map Parameter.key = ["url"]
      ∧ ∃ v, (Item.struct s).code.build Sample.surroundings s.name.text [("timeout", .number 5),
            ("url", .text "a"), ("body", .absent), ("timeout", .number 7)] = .ok v
        ∧ ((Item.struct s).code.call Sample.surroundings s.name.text "new" none [.text "a"]
            >>= (Item.struct s).code.invokeAll Sample.surroundings
              [("with_timeout", .number 5), ("with_body", .absent), ("with_timeout", .number 7)])
          = .ok v := by
  have hcheck : (Sample.request.struct?.any fun s =>
      ((s.fields.list.filterMap Field.name).map Ident.text).Nodup
        && (s.fields.list.filterMap Field.name).all (fun name => name.text ∉ Builder.ownNames)
        && s.attrs.all Attribute.argumentsRead
        && (Item.struct s).properties.toOption.isSome
        && ((Sample.request.constructor? .memberwise).any fun c =>
          c.inputs.map Parameter.key = ["url"])
        && (Sample.request.builder?.any fun b => b.fields.map (fun f => (f.name.text, f.isRequired))
          = [("url", true), ("body", false), ("timeout", false)])) = true := by decide +kernel
  obtain ⟨s, hs, hall⟩ := (Option.any_eq_true _ _).mp hcheck
  simp only [Bool.and_eq_true, decide_eq_true_eq, List.all_eq_true] at hall
  obtain ⟨⟨⟨⟨⟨hnames, hown⟩, hargs⟩, hread⟩, hconstructor⟩, hbuilder⟩ := hall
  obtain ⟨ps, hps⟩ := Option.isSome_iff_exists.mp hread
  obtain ⟨c, hfoundc, hinputs⟩ := (Option.any_eq_true _ _).mp hconstructor
  obtain ⟨b, hfoundb, hslots⟩ := (Option.any_eq_true _ _).mp hbuilder
  have hps := eq_ok_of_toOption hps
  simp only [decide_eq_true_eq] at hinputs hslots
  have hitem := Sample.item?_of_struct? hs
  have hgenerated : Sample.request.generated = (Item.struct s).generated := by
    rw [Sample.generated, hitem]
    rfl
  obtain ⟨hc, hkind⟩ := Sample.mem_of_constructor? hfoundc
  have hb := Sample.mem_of_builder? hfoundb
  rw [hgenerated] at hc hb
  have hfield : ∀ k ∈ ["url", "body", "timeout"], ∃ f ∈ b.fields, f.name.text = k := by
    have hkeys : b.fields.map (fun f => f.name.text) = ["url", "body", "timeout"] := by
      have := congrArg (List.map Prod.fst) hslots
      rwa [List.map_map] at this
    intro k hk
    rw [← hkeys] at hk
    exact List.mem_map.mp hk
  have hany : ∀ k, (b.fields.any fun f => !f.isRequired && f.name.text = k)
      = [("url", true), ("body", false), ("timeout", false)].any fun x => !x.2 && x.1 = k := by
    intro k
    rw [← hslots, List.any_map]
    rfl
  obtain ⟨q, hq, hurl⟩ := List.map_eq_singleton_iff.mp hinputs
  have hpassed : ∀ i ∈ c.inputs.zip [Value.text "a"], lastPassed [("timeout", .number 5),
      ("url", .text "a"), ("body", .absent), ("timeout", .number 7)] i.1.name.text
      = some i.2 := by
    intro i hi
    rw [hq] at hi
    rw [List.mem_singleton.mp hi]
    show lastPassed _ q.key = _
    rw [hurl]
    rfl
  obtain ⟨-, -, hboth⟩ := Item.run_builder_eq_call_constructor Sample.surroundings s ps c b hps
    hnames hown hargs hc hkind hb
  obtain ⟨v, hbuild, hcall⟩ := hboth [.text "a"]
    [("timeout", .number 5), ("body", .absent), ("timeout", .number 7)] _
    (by rw [hq]; rfl)
    (by
      have htimeout := hfield "timeout" (by simp)
      simpa using ⟨htimeout, hfield "url" (by simp), hfield "body" (by simp), htimeout⟩)
    hpassed (by simp [Builder.overrides, hany])
  exact ⟨s, ps, c, b, hitem, hps, hc, hkind, hb, hinputs, v, hbuild, hcall⟩

end DeclMacros
