import DeclMacros.Proofs.Parsing
import DeclMacros.Proofs.Untyped

/-! # A test factory refines the constructor

    Both constructors of a structure are made from the same fields.  The test factory
    reads one more marker than the other, so it may fill in what the other asks for, but
    it never asks for more.

    The route: of several stub markers on a field the last one counts
    (`foldlM_withAttr_stub`; the induction goes from the end of the attributes), and it
    has an argument or is bare (`Attribute.stubArgument_cases`).  That says what both
    constructors write for one field (`Property.refines_of_ofField`).  They write
    something for the same fields one by one (`forall₂_refines`), and what is written
    in short is what a caller gives (`Constructor.params_eq_inputs`). -/

set_option autoImplicit false

namespace DeclMacros

/-! ## The last stub marker -/

namespace Attribute

/-- Nothing is written as an argument: there are no arguments, or they are an empty
    group. -/
def isBare (a : Attribute) : Bool :=
  a.arguments.isEmpty || match Token.exposedFront a.arguments with
    | [.group _ [] _] => true
    | _ => false

/-- A stub marker without an argument delegates, and any other has the value of an
    expression. -/
theorem stubArgument_cases {a : Attribute} {m : StubMarker} (h : a.stubArgument = .ok m) :
    (a.isBare = true ∧ m = .delegate)
      ∨ (a.isBare = false ∧ ∃ e, a.exprArgument = .ok e ∧ m = .value e) := by
  unfold stubArgument at h
  by_cases hempty : a.arguments.isEmpty = true
  · rw [if_pos hempty] at h
    cases h
    exact .inl ⟨by rw [isBare, hempty, Bool.true_or], rfl⟩
  rw [if_neg hempty, Parser.attrArguments_eq_ok_iff] at h
  obtain ⟨d, content, span, rest, hd, hfront, hread, hleft, hend⟩ := h
  rw [Parser.bind_of_ok (show Parser.atEnd _ = .ok (content.isEmpty, _) from rfl)] at hread
  cases content with
  | nil =>
      cases hread
      refine .inl ⟨?_, rfl⟩
      rw [isBare, hfront, Bool.or_true]
  | cons t content =>
      obtain ⟨e, j, he, hvalue⟩ := Parser.bind_eq_ok_iff.mp hread
      cases hvalue
      refine .inr ⟨?_, e, ?_, rfl⟩
      · rw [isBare, hfront, Bool.or_false]
        exact Bool.eq_false_iff.mpr hempty
      · exact Parser.attrArguments_eq_ok_iff.mpr ⟨d, _, span, rest, hd, hfront, he, hleft, hend⟩

/-- The last stub marker among attributes. -/
def lastStub? (attrs : List Attribute) : Option Attribute :=
  (attrs.filter (·.isMarker .stub)).getLast?

theorem lastStub?_append_of_isMarker {attrs : List Attribute} {a : Attribute}
    (h : a.isMarker .stub = true) : lastStub? (attrs ++ [a]) = some a := by
  simp [lastStub?, List.filter_append, h]

theorem lastStub?_append_of_not_isMarker {attrs : List Attribute} {a : Attribute}
    (h : a.isMarker .stub = false) : lastStub? (attrs ++ [a]) = lastStub? attrs := by
  simp [lastStub?, List.filter_append, h]

end Attribute

namespace Property

/-- After all attributes are read, the last stub marker counts; without one nothing is
    changed. -/
theorem foldlM_withAttr_stub {attrs : List Attribute} {p q : Property}
    (h : attrs.foldlM withAttr p = .ok q) :
    (Attribute.lastStub? attrs = none ∧ q.stub = p.stub)
      ∨ ∃ a m, Attribute.lastStub? attrs = some a ∧ a.stubArgument = .ok m
        ∧ q.stub = some m := by
  induction attrs using List.reverseRecOn generalizing q with
  | nil =>
      cases h
      exact .inl ⟨rfl, rfl⟩
  | append_singleton attrs a ih =>
      rw [List.foldlM_append, bind_eq_ok_iff] at h
      obtain ⟨r, hr, hlast⟩ := h
      rw [List.foldlM_cons, bind_eq_ok_iff] at hlast
      obtain ⟨_, hstep, ⟨⟩⟩ := hlast
      have hbefore := ih hr
      rcases withAttr_cases hstep with ⟨hm, e, -, rfl⟩ | ⟨hm, m, hread, rfl⟩ | ⟨-, hm, -, rfl⟩
      · have hother : a.isMarker .stub = false :=
          Bool.eq_false_iff.mpr fun hstub => Marker.noConfusion (Attribute.isMarker_unique hm hstub)
        rw [Attribute.lastStub?_append_of_not_isMarker hother]
        exact hbefore
      · exact .inr ⟨a, m, Attribute.lastStub?_append_of_isMarker hm, hread, rfl⟩
      · rw [Attribute.lastStub?_append_of_not_isMarker hm]
        exact hbefore

end Property

/-- The stub marker of a field that counts. -/
def Field.stubMarker? (f : Field) : Option Attribute := Attribute.lastStub? f.attrs

/-! ## One field -/

/-- The expression that a stub marker gives to a field of this type: the one that is written, or
    a call for the test value of the type, inside of an optional one. -/
inductive Attribute.StubCode (a : Attribute) (ty : Ty) : Code → Prop where
  | given {e : Expr} : a.isBare = false → a.exprArgument = .ok e → StubCode a ty (.given e)
  | delegated : a.isBare = true → ty.optionInner? = none → StubCode a ty (.stub ty)
  | delegatedInside {inner : Ty} : a.isBare = true → ty.optionInner? = some inner →
      StubCode a ty (.present (.stub inner))

/-- What both constructors write for a field, in short if they ask for it: `new` stands in the
    literal of the constructor and `stub` in that of the test factory. -/
structure Field.Refines (f : Field) (new stub : FieldCode) : Prop where
  name : f.name = some new.name ∧ stub.name = new.name
  /-- What the constructor asks for, the test factory fills in exactly if it is marked. -/
  missing : new.code = none → (stub.code ≠ none ↔ f.stubMarker?.isSome = true)
  /-- What the constructor fills in, the test factory does too, -/
  filled : new.code ≠ none → stub.code ≠ none
  /-- with the same expression if there is no marker, -/
  unmarked : f.stubMarker? = none → stub.code = new.code
  /-- and else with that of the last one. -/
  marked : ∀ a, f.stubMarker? = some a → ∃ code, stub.code = some code ∧ a.StubCode f.ty code

/-- What is written for a parameter. -/
theorem Parameter.code_init (q : Parameter) :
    q.init.code = ⟨q.name, q.initial.map Initial.code⟩ := by
  unfold Parameter.init
  cases q.initial <;> rfl

namespace Property

variable {f : Field} {p : Property}

/-- Without a stub marker the test value of a property is its own. -/
theorem stubInitial_of_unmarked (h : ofField f = .ok p) (hmarker : f.stubMarker? = none) :
    p.stubInitial = p.ownInitial := by
  rcases foldlM_withAttr_stub h with ⟨-, hstub⟩ | ⟨a, m, hlast, -⟩
  · rw [stubInitial, hstub]
  · rw [Field.stubMarker?, hlast] at hmarker
    cases hmarker

/-- With one it is the value of the last one. -/
theorem stubInitial_of_marked (h : ofField f = .ok p) {ty : Ty} (hty : p.ty = some ty)
    {a : Attribute} (hmarker : f.stubMarker? = some a) :
    ∃ value, p.stubInitial = some value ∧ a.StubCode ty value.code := by
  obtain ⟨m, hread, hstub⟩ : ∃ m, a.stubArgument = .ok m ∧ p.stub = some m := by
    rcases foldlM_withAttr_stub h with ⟨hnone, -⟩ | ⟨a', m, hlast, hread, hstub⟩
    · rw [Field.stubMarker?, hnone] at hmarker
      cases hmarker
    · rw [Field.stubMarker?, hlast] at hmarker
      cases hmarker
      exact ⟨m, hread, hstub⟩
  rcases Attribute.stubArgument_cases hread with ⟨hbare, rfl⟩ | ⟨hbare, e, he, rfl⟩
  · cases hinner : ty.optionInner? with
    | none => exact ⟨.stubOf ty, by simp [stubInitial, hstub, hty, hinner], .delegated hbare hinner⟩
    | some inner =>
        exact ⟨.presentStub inner, by simp [stubInitial, hstub, hty, hinner],
          .delegatedInside hbare hinner⟩
  · exact ⟨.given e, by simp [stubInitial, hstub], .given hbare he⟩

/-- What both constructors write for a field that has a name and a type. -/
theorem refines_of_ofField (h : ofField f = .ok p) {new stub : Parameter}
    (hnew : Parameter.ofProperty? ConstructorKind.memberwise.initial p = some new)
    (hstub : Parameter.ofProperty? ConstructorKind.stub.initial p = some stub) :
    f.Refines new.init.code stub.init.code := by
  obtain ⟨hname, hty, hown : new.initial = p.ownInitial⟩ :=
    Parameter.ofProperty?_eq_some_iff.mp hnew
  obtain ⟨hname', -, htest : stub.initial = p.stubInitial⟩ :=
    Parameter.ofProperty?_eq_some_iff.mp hstub
  have hfieldName : f.name = some new.name := (ofField_fixed h).1.symm.trans hname
  rw [new.code_init, stub.code_init]
  have hunmarked : f.stubMarker? = none →
      stub.initial.map Initial.code = new.initial.map Initial.code := by
    intro hmarker
    rw [htest, hown, stubInitial_of_unmarked h hmarker]
  have hmarked : ∀ a, f.stubMarker? = some a →
      ∃ code, stub.initial.map Initial.code = some code ∧ a.StubCode f.ty code := by
    intro a hmarker
    obtain ⟨value, hvalue, hcode⟩ := stubInitial_of_marked h hty hmarker
    rw [htest, hvalue, ty_eq_of_ofField h hty]
    exact ⟨value.code, rfl, hcode⟩
  refine ⟨⟨hfieldName, Option.some.inj (hname'.symm.trans hname)⟩, ?_, ?_, hunmarked, hmarked⟩
  -- which parameters a caller gives follows from where the values come from
  · intro hasked
    cases hmarker : f.stubMarker? with
    | none =>
        have hsame := (hunmarked hmarker).trans hasked
        simpa using hsame
    | some a =>
        obtain ⟨code, hcode, -⟩ := hmarked a hmarker
        simp [hcode]
  · intro hfilled
    cases hmarker : f.stubMarker? with
    | none =>
        show stub.initial.map Initial.code ≠ none
        rw [hunmarked hmarker]
        exact hfilled
    | some a =>
        obtain ⟨code, hcode, -⟩ := hmarked a hmarker
        show stub.initial.map Initial.code ≠ none
        rw [hcode]
        exact Option.some_ne_none code

end Property

/-! ## All fields -/

/-- What a constructor writes for its parameters. -/
def Parameter.codes (params : List Parameter) : List FieldCode := params.map fun q => q.init.code

/-- Both constructors write something for the same fields, one by one. -/
theorem StructDecl.forall₂_refines {s : StructDecl} {ps : List Property}
    (hread : (Item.struct s).properties = .ok ps) :
    List.Forall₂ (fun f (pair : FieldCode × FieldCode) => f.Refines pair.1 pair.2) s.typedFields
      ((Parameter.codes (ConstructorKind.memberwise.parameters (Property.typed ps))).zip
        (Parameter.codes (ConstructorKind.stub.parameters (Property.typed ps)))) := by
  have hfields := forall₂_typedFields hread
  have hnew := forall₂_parameters .memberwise ps
  have hstub := forall₂_parameters .stub ps
  generalize ConstructorKind.memberwise.parameters (Property.typed ps) = new at hnew ⊢
  generalize ConstructorKind.stub.parameters (Property.typed ps) = stub at hstub ⊢
  generalize Property.typed ps = typed at hfields hnew hstub
  generalize s.typedFields = fields at hfields ⊢
  induction hfields generalizing new stub with
  | nil =>
      cases hnew
      exact .nil
  | cons hfp _ ih =>
      cases hnew with
      | cons hpn hnew =>
          cases hstub with
          | cons hps hstub =>
              exact .cons (Property.refines_of_ofField hfp hpn hps) (ih _ _ hnew hstub)

/-- What a caller gives: the names and types of the fields that are written in short. -/
def FieldCode.inputs (fields : List Field) (codes : List FieldCode) : List (Ident × Tokens) :=
  (fields.zip codes).filterMap fun x =>
    if x.2.isShort then some (x.2.name, x.1.ty.tokens) else none

theorem FieldCode.inputs_cons (f : Field) (fields : List Field) (code : FieldCode)
    (codes : List FieldCode) :
    inputs (f :: fields) (code :: codes)
      = (if code.isShort then [(code.name, f.ty.tokens)] else []) ++ inputs fields codes := by
  rw [inputs, List.zip_cons_cons, List.filterMap_cons, inputs]
  cases code.isShort <;> rfl

/-- What a caller of the test factory gives is part of what one of the constructor does, in
    the same order. -/
theorem FieldCode.sublist_inputs {fields : List Field} {new stub : List FieldCode}
    (h : List.Forall₂ (fun f (pair : FieldCode × FieldCode) => f.Refines pair.1 pair.2) fields
      (new.zip stub)) (hlength : new.length = stub.length) :
    (inputs fields stub).Sublist (inputs fields new) := by
  induction new generalizing stub fields with
  | nil =>
      cases stub with
      | nil => exact List.Sublist.refl _
      | cons => cases hlength
  | cons p new ih =>
      cases stub with
      | nil => cases hlength
      | cons q stub =>
          rw [List.zip_cons_cons] at h
          cases h with
          | cons hpq hrest =>
              have hsub := ih hrest (Nat.succ.inj hlength)
              rw [inputs_cons, inputs_cons]
              refine List.Sublist.append ?_ hsub
              -- what is written in short by the test factory is so by the constructor
              by_cases hq : q.isShort = true
              · have hp : p.isShort = true := by
                  by_contra hfilled
                  exact hpq.filled (fun h => hfilled (Option.isNone_iff_eq_none.mpr h))
                    (Option.isNone_iff_eq_none.mp hq)
                rw [if_pos hq, if_pos hp, hpq.name.2]
              · rw [if_neg hq]
                exact List.nil_sublist _

/-- The parameters of a constructor are what its caller gives. -/
theorem Constructor.params_eq_inputs {s : StructDecl} {ps : List Property}
    (hread : (Item.struct s).properties = .ok ps) {c : Constructor} (hc : c.IsFor s ps) :
    c.method.params = FieldCode.inputs s.typedFields (Parameter.codes c.params) := by
  have hfields : List.Forall₂ (fun f (q : Parameter) => f.ty = q.ty) s.typedFields c.params := by
    rw [hc.params]
    refine (forall₂_trans (StructDecl.forall₂_typedFields hread)
      (forall₂_parameters c.kind ps)).imp ?_
    rintro f q ⟨p, hfp, hpq⟩
    exact Property.ty_eq_of_ofField hfp (Parameter.ofProperty?_eq_some_iff.mp hpq).2.1
  show (c.params.filter Parameter.isRequired).map (fun q => (q.name, q.ty.tokens)) = _
  generalize c.params = params at hfields ⊢
  generalize s.typedFields = fields at hfields ⊢
  induction hfields with
  | nil => rfl
  | @cons f q fields params hfq _ ih =>
      show _ = FieldCode.inputs (f :: fields) (q.init.code :: Parameter.codes params)
      rw [FieldCode.inputs_cons, q.isShort_init, ← ih, List.filter_cons, hfq]
      cases q.isRequired with
      | false => rfl
      | true =>
          rw [if_pos rfl, if_pos rfl, q.code_init]
          rfl

/-! ## Without stub markers -/

/-- The marker gives a test value. -/
def Marker.isStub (m : Marker) : Bool := m = .stub

/-- No stub marker is left on a field when all are taken away. -/
theorem Field.stubMarker?_without (f : Field) :
    (f.without Marker.isStub).stubMarker? = none := by
  have hnone : ((Attribute.without Marker.isStub f.attrs).filter
      (·.isMarker .stub)) = [] := by
    refine List.filter_eq_nil_iff.mpr ?_
    intro a ha hstub
    have hkept := (List.mem_filter.mp ha).2
    rw [(Attribute.any_gone_iff _ a).mpr ⟨.stub, rfl, hstub⟩] at hkept
    cases hkept
  exact congrArg List.getLast? hnone

/-- Without stub markers both constructors have the same parameters, those that the
    constructor has in any case. -/
theorem StructDecl.parameters_without_stub {s : StructDecl} {ps : List Property}
    (hread : (Item.struct s).properties = .ok ps) :
    ∃ qs, (Item.struct (s.without Marker.isStub)).properties = .ok qs
      ∧ Property.phantoms qs = Property.phantoms ps
      ∧ ConstructorKind.stub.parameters (Property.typed qs)
        = ConstructorKind.memberwise.parameters (Property.typed qs)
      ∧ ConstructorKind.memberwise.parameters (Property.typed qs)
        = ConstructorKind.memberwise.parameters (Property.typed ps) := by
  obtain ⟨qs, hqs, hagree⟩ := Property.mapM_ofField_without Marker.isStub hread
  have hfields : (s.without Marker.isStub).fields.list
      = s.fields.list.map (Field.without Marker.isStub) := Fields.list_map _ _
  have hread' : (Item.struct (s.without Marker.isStub)).properties = .ok qs := by
    show List.mapM Property.ofField (s.without Marker.isStub).fields.list = .ok qs
    rw [hfields]
    exact hqs
  have hreads : ∀ k : Marker, ConstructorKind.memberwise.attached ∈ k.consumers →
      k.isStub = false := by
    intro k
    cases k <;> decide
  refine ⟨qs, hread', phantoms_agree hagree, ?_, parameters_agree .memberwise hreads hagree⟩
  refine List.filterMap_congr ?_
  intro q hq
  -- each property is that of a field whose stub markers are gone
  have hmem : q ∈ qs := List.mem_of_mem_filter (List.mem_of_mem_filter hq)
  obtain ⟨f', hf', hfq⟩ := exists_mem_of_forall₂ (Item.forall₂_properties hread') hmem
  rw [hfields] at hf'
  obtain ⟨f, -, rfl⟩ := List.mem_map.mp hf'
  have hsame : q.stubInitial = q.ownInitial :=
    Property.stubInitial_of_unmarked hfq f.stubMarker?_without
  rw [Parameter.ofProperty?, Parameter.ofProperty?, ConstructorKind.initial,
    ConstructorKind.initial, hsame]

/-! ## The two constructors -/

/-- The macro of a constructor emits for a structure, if it has typed fields, one function of the
    kind's name.  It returns a literal of the structure with these fields, followed by those without
    data, and its parameters are those that are written in short. -/
def ConstructorKind.Emits (kind : ConstructorKind) (s : StructDecl)
    (fields phantoms : List FieldCode) : Prop :=
  ∀ a, ∃ e, Constructor.expand kind a (.struct s) = .ok e
    ∧ (s.typedFields = [] → e.items = [])
    ∧ (s.typedFields ≠ [] → ∃ c m l, e.items = [c] ∧ c.tokens = c.code.tokens
      ∧ c.code.literals s.name.text = [(m, l)] ∧ m.name.text = kind.function
      ∧ m.params = FieldCode.inputs s.typedFields fields
      ∧ l.type = none ∧ l.fields = fields ++ phantoms)

/-- What it emits, once the properties are known. -/
theorem ConstructorKind.emits_of_properties {s : StructDecl} {ps : List Property}
    (hread : (Item.struct s).properties = .ok ps) (kind : ConstructorKind) :
    kind.Emits s (Parameter.codes (kind.parameters (Property.typed ps)))
      ((phantomInits (Property.phantoms ps)).map FieldInit.code) := by
  have hempty : (Property.typed ps).isEmpty = true ↔ s.typedFields = [] := by
    rw [List.isEmpty_iff_length_eq_zero, ← (StructDecl.forall₂_typedFields hread).length_eq,
      List.length_eq_zero_iff]
  intro a
  rw [Constructor.expand, expandStruct_eq kind.attached a hread]
  by_cases hnone : (Property.typed ps).isEmpty = true
  · rw [if_pos hnone]
    exact ⟨_, rfl, fun _ => rfl, fun hne => absurd (hempty.mp hnone) hne⟩
  · rw [if_neg hnone]
    refine ⟨_, rfl, fun hnil => absurd (hempty.mpr hnil) hnone, fun _ => ?_⟩
    have hfor : (Constructor.ofTarget kind (.ofProperties a s ps)).IsFor s ps := ⟨rfl, rfl, rfl⟩
    refine ⟨_, _, _, rfl, Constructor.tokens_eq_code _, Constructor.literals_code rfl, rfl,
      Constructor.params_eq_inputs hread hfor, rfl, ?_⟩
    show (Constructor.literal _).map FieldInit.code = _
    rw [Constructor.literal, List.map_append, List.map_map]
    rfl

/-- **The test factory refines the constructor.**  For a structure with well formed markers both
    constructors write something for the same fields, those with a name, a type and data, and the
    fields without data are filled in alike.  What a caller of the test factory gives is a part,
    in order, of what a caller of the constructor gives; a field is left out exactly if it has a
    stub marker, of which the last one says the expression that is written for it, and for all
    other fields that is the expression of the constructor.  Without stub markers the parameters
    of both are the same, and both write what the constructor writes in any case. -/
theorem StructDecl.stub_refines_new {s : StructDecl} (h : s.HasWellFormedMarkers) :
    ∃ (fields : ConstructorKind → List FieldCode) (phantoms : List FieldCode),
      (∀ kind : ConstructorKind, kind.Emits s (fields kind) phantoms)
      ∧ (∀ kind, (fields kind).length = s.typedFields.length)
      ∧ List.Forall₂ (fun f (pair : FieldCode × FieldCode) => f.Refines pair.1 pair.2)
        s.typedFields ((fields .memberwise).zip (fields .stub))
      ∧ (FieldCode.inputs s.typedFields (fields .stub)).Sublist
        (FieldCode.inputs s.typedFields (fields .memberwise))
      ∧ (∀ kind : ConstructorKind,
        kind.Emits (s.without Marker.isStub) (fields .memberwise) phantoms)
      ∧ ∃ bare, (Item.struct (s.without Marker.isStub)).storedProperties = .ok bare
        ∧ ConstructorKind.stub.parameters bare = ConstructorKind.memberwise.parameters bare := by
  obtain ⟨ps, hread⟩ := s.exists_properties_iff.mpr h
  have hlength (kind : ConstructorKind) :
      (Parameter.codes (kind.parameters (Property.typed ps))).length = s.typedFields.length := by
    rw [Parameter.codes, List.length_map, ← (forall₂_parameters kind ps).length_eq,
      ← (forall₂_typedFields hread).length_eq]
  have hrefines := forall₂_refines hread
  obtain ⟨qs, hread', hphantoms, hsame, hkept⟩ := parameters_without_stub hread
  refine ⟨fun kind => Parameter.codes (kind.parameters (Property.typed ps)), _,
    ConstructorKind.emits_of_properties hread, hlength, hrefines, ?_, ?_, Property.stored qs,
    Item.storedProperties_eq hread', ?_⟩
  · exact FieldCode.sublist_inputs hrefines ((hlength .memberwise).trans (hlength .stub).symm)
  · intro kind
    have hparams : kind.parameters (Property.typed qs)
        = ConstructorKind.memberwise.parameters (Property.typed ps) := by
      cases kind with
      | memberwise => exact hkept
      | stub => exact hsame.trans hkept
    have hemits := ConstructorKind.emits_of_properties hread' kind
    rwa [hparams, hphantoms] at hemits
  · rw [parameters_stored, parameters_stored]
    exact hsame

/-- A stable with fields of all kinds, some of which have several stub markers. -/
def Sample.stable : Sample where
  source := "struct Stable<T> \x7b name: String, #[stub(7)] #[stub(8)] boxes: u8, "
    ++ "#[stub] keeper: Option<Keeper>, #[stub()] yard: Yard, #[default(1)] #[stub] #[stub(2)] "
    ++ "gates: u8, note: Option<u8>, #[default(3)] carts: u8, size: _, tag: PhantomData<T> \x7d"

/-- The constructor of the stable asks for three fields, and the test factory for one of
    them. -/
theorem Sample.stable_stub_refines_new :
    ∃ s, ∃ (fields : ConstructorKind → List FieldCode) (phantoms : List FieldCode),
      Sample.stable.struct? = some s ∧ s.HasWellFormedMarkers ∧ s.typedFields ≠ []
      ∧ (∀ kind : ConstructorKind, kind.Emits s (fields kind) phantoms)
      ∧ List.Forall₂ (fun f (pair : FieldCode × FieldCode) => f.Refines pair.1 pair.2)
        s.typedFields ((fields .memberwise).zip (fields .stub))
      ∧ (FieldCode.inputs s.typedFields (fields .memberwise)).map (·.1.text)
        = ["name", "boxes", "yard"]
      ∧ (FieldCode.inputs s.typedFields (fields .stub)).map (·.1.text) = ["name"]
      ∧ (FieldCode.inputs s.typedFields (fields .stub)).Sublist
        (FieldCode.inputs s.typedFields (fields .memberwise)) := by
  have hcheck : (Sample.stable.struct?.any fun s => decide (s.HasWellFormedMarkers
      ∧ s.typedFields.isEmpty = false)
      && ((Constructor.expand .memberwise {} (.struct s)).toOption.any fun e =>
        e.items.map (fun c => c.method.params.map (·.1.text)) = [["name", "boxes", "yard"]])
      && ((Constructor.expand .stub {} (.struct s)).toOption.any fun e =>
        e.items.map (fun c => c.method.params.map (·.1.text)) = [["name"]])) = true := by
    decide +kernel
  obtain ⟨s, hs, hall⟩ := (Option.any_eq_true _ _).mp hcheck
  simp only [Bool.and_eq_true] at hall
  obtain ⟨⟨hform, hnew⟩, hstub⟩ := hall
  obtain ⟨hmarkers, hfields⟩ := of_decide_eq_true hform
  obtain ⟨fields, phantoms, hemits, -, hrefines, hsub, -⟩ := StructDecl.stub_refines_new hmarkers
  -- the function in what is emitted is the one whose parameters are counted
  have hinputs : ∀ kind names, ((Constructor.expand kind {} (.struct s)).toOption.any fun e =>
      e.items.map (fun c => c.method.params.map (·.1.text)) = [names]) = true →
      (FieldCode.inputs s.typedFields (fields kind)).map (·.1.text) = names := by
    intro kind names hany
    obtain ⟨e, he, hnames⟩ := (Option.any_eq_true _ _).mp hany
    obtain ⟨e', he', -, hitems⟩ := hemits kind {}
    obtain rfl := Except.ok.inj ((eq_ok_of_toOption he).symm.trans he')
    obtain ⟨c, m, l, hc, -, hliterals, -, hparams, -⟩ :=
      hitems (List.isEmpty_eq_false_iff.mp hfields)
    obtain ⟨ps, hread⟩ := s.exists_properties_iff.mpr hmarkers
    obtain ⟨-, hfor⟩ := Constructor.isFor_of_mem_expand hread he'
      (hc ▸ List.mem_singleton_self c)
    rw [Constructor.literals_code (by rw [hfor.target])] at hliterals
    have hmethod : c.method = m := (Prod.mk.inj (List.cons.inj hliterals).1).1
    rw [hc] at hnames
    rw [← hparams, ← hmethod]
    exact (List.cons.inj (of_decide_eq_true hnames)).1
  exact ⟨s, fields, phantoms, hs, hmarkers, List.isEmpty_eq_false_iff.mp hfields, hemits, hrefines,
    hinputs _ _ hnew, hinputs _ _ hstub, hsub⟩

end DeclMacros
