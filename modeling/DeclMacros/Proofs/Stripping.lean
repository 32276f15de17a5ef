import DeclMacros.Attach
import DeclMacros.Proofs.Reading

/-! # Markers that nobody reads

    Removing the consumed markers of an item is one case of removing some kinds
    of markers from the fields of a structure and the methods of a trait
    (`Item.without`).  Such removals compose, and they commute with what happens
    to the attributes of the item itself.

    The main lemma, `expand_without`, is about all six macros at once: a macro
    generates the same code and reports the same problems with and without
    markers that neither it nor a macro still attached reads.  Only the places
    of reports differ, as the place of a field includes its attributes. -/

set_option autoImplicit false

namespace DeclMacros

/-! ## Removing kinds of markers -/

/-- A member of a trait without some kinds of markers. -/
def TraitItem.without (gone : Marker → Bool) : TraitItem → TraitItem
  | .method m => .method { m with attrs := Attribute.without gone m.attrs }
  | member => member

/-- A field without some kinds of markers. -/
def Field.without (gone : Marker → Bool) (f : Field) : Field :=
  { f with attrs := Attribute.without gone f.attrs }

namespace Item

/-- An item without some kinds of markers on the fields of a structure and the
    methods of a trait. -/
def without (gone : Marker → Bool) : Item → Item
  | .struct s => .struct { s with fields := s.fields.map (Field.without gone) }
  | .trait t => .trait { t with items := t.items.map (TraitItem.without gone) }
  | item => item

/-- The markers that are removed are the consumed ones. -/
theorem stripped_eq_without (item : Item) :
    item.stripped = item.without fun m => m.isConsumed item.attrs := by
  cases item <;> rfl

/-- The attributes of the item itself stay. -/
@[simp] theorem attrs_without (gone : Marker → Bool) (item : Item) :
    (item.without gone).attrs = item.attrs := by
  cases item <;> rfl

/-- Removing markers commutes with giving the item other attributes. -/
theorem withAttrs_without (gone : Marker → Bool) (attrs : List Attribute) (item : Item) :
    (item.without gone).withAttrs attrs = (item.withAttrs attrs).without gone := by
  cases item <;> rfl

/-- What is read from the fields does not depend on the attributes of the item. -/
theorem properties_withAttrs (attrs : List Attribute) (item : Item) :
    (item.withAttrs attrs).properties = item.properties := by
  cases item <;> rfl

/-- An item with attributes can be given others. -/
theorem attrs_withAttrs {item : Item} (h : item.attrs ≠ []) (attrs : List Attribute) :
    (item.withAttrs attrs).attrs = attrs := by
  cases item with
  | other old body => exact absurd rfl h
  | verbatim tokens => exact absurd rfl h
  | _ => rfl

/-- The attributes that an item is given last count. -/
@[simp] theorem withAttrs_withAttrs (first last : List Attribute) (item : Item) :
    (item.withAttrs first).withAttrs last = item.withAttrs last := by
  cases item <;> rfl

/-- An item with the attributes it has. -/
@[simp] theorem withAttrs_attrs (item : Item) : item.withAttrs item.attrs = item := by
  cases item <;> rfl

end Item

/-- Removing markers twice removes the markers of both kinds. -/
theorem Attribute.without_without (g h : Marker → Bool) (attrs : List Attribute) :
    Attribute.without h (Attribute.without g attrs)
      = Attribute.without (fun m => g m || h m) attrs := by
  have hany : ∀ a : Attribute, (Marker.all.any fun m => (g m || h m) && a.named m.name)
      = ((Marker.all.any fun m => h m && a.named m.name)
        || (Marker.all.any fun m => g m && a.named m.name)) := by
    intro a
    rw [Bool.eq_iff_iff, Bool.or_eq_true, Attribute.any_gone_iff, Attribute.any_gone_iff,
      Attribute.any_gone_iff]
    constructor
    · rintro ⟨m, hm, ha⟩
      rcases Bool.or_eq_true _ _ ▸ hm with hg | hh
      · exact .inr ⟨m, hg, ha⟩
      · exact .inl ⟨m, hh, ha⟩
    · rintro (⟨m, hm, ha⟩ | ⟨m, hm, ha⟩)
      · exact ⟨m, by rw [hm, Bool.or_true], ha⟩
      · exact ⟨m, by rw [hm, Bool.true_or], ha⟩
  unfold Attribute.without
  rw [List.filter_filter]
  congr 1
  funext a
  rw [hany, Bool.not_or]

/-- Fields changed twice. -/
theorem Fields.map_map (f g : Field → Field) (fields : Fields) :
    (fields.map f).map g = fields.map (g ∘ f) := by
  cases fields with
  | named fields span =>
      show Fields.named _ _ = Fields.named _ _
      rw [List.map_map]
      rfl
  | tuple fields span =>
      show Fields.tuple _ _ = Fields.tuple _ _
      rw [List.map_map]
      rfl
  | unit => rfl

/-- Fields that are not changed. -/
theorem Fields.map_id (fields : Fields) : fields.map id = fields := by
  cases fields with
  | named fields span => exact congrArg (Fields.named · span) (List.map_id fields)
  | tuple fields span => exact congrArg (Fields.tuple · span) (List.map_id fields)
  | unit => rfl

/-- The changed fields in declaration order. -/
theorem Fields.list_map (f : Field → Field) (fields : Fields) :
    (fields.map f).list = fields.list.map f := by
  cases fields with
  | named fields span =>
      show List.map _ (List.map _ fields) = List.map f (List.map _ fields)
      rw [List.map_map, List.map_map]
      rfl
  | tuple fields span =>
      show List.map _ (List.map _ fields) = List.map f (List.map _ fields)
      rw [List.map_map, List.map_map]
      rfl
  | unit => rfl

/-- Removing markers from an item twice removes the markers of both kinds. -/
theorem Item.without_without (g h : Marker → Bool) (item : Item) :
    (item.without g).without h = item.without fun m => g m || h m := by
  cases item with
  | struct s =>
      have hfield : Field.without h ∘ Field.without g = Field.without fun m => g m || h m := by
        funext f
        show { f with attrs := Attribute.without h (Attribute.without g f.attrs) } = _
        rw [Attribute.without_without]
        rfl
      show Item.struct _ = Item.struct _
      rw [Fields.map_map, hfield]
  | trait t =>
      have hmember : TraitItem.without h ∘ TraitItem.without g
          = TraitItem.without fun m => g m || h m := by
        funext member
        cases member with
        | method m =>
            show TraitItem.method (TraitMethod.mk _ _ _) = TraitItem.method (TraitMethod.mk _ _ _)
            rw [Attribute.without_without]
        | _ => rfl
      show Item.trait _ = Item.trait _
      rw [List.map_map, hmember]
  | _ => rfl

/-- Removing no kind of markers changes nothing. -/
theorem Item.without_nothing (item : Item) : item.without (fun _ => false) = item := by
  have hattrs : ∀ attrs : List Attribute, Attribute.without (fun _ => false) attrs = attrs :=
    fun attrs => List.filter_eq_self.mpr (fun a _ => by rfl)
  cases item with
  | struct s =>
      have hfield : Field.without (fun _ => false) = id := by
        funext f
        show Field.mk _ _ _ _ _ = f
        rw [hattrs]
      show Item.struct _ = Item.struct _
      rw [hfield, Fields.map_id]
  | trait t =>
      have hmember : TraitItem.without (fun _ => false) = id := by
        funext member
        cases member with
        | method m =>
            show TraitItem.method (TraitMethod.mk _ _ _) = TraitItem.method m
            rw [hattrs]
        | _ => rfl
      show Item.trait _ = Item.trait _
      rw [hmember, List.map_id]
  | _ => rfl

/-! ## What the macros read -/

/-- What an expansion says, places left out: what is generated, and the problems
    that are reported, in order. -/
def Expansion.content {α : Type} (e : Expansion α) : List α × List Problem :=
  (e.items, e.diagnostics.map Diagnostic.problem)

/-- Neither the macro nor one among the attributes reads markers of these
    kinds. -/
def AttachedMacro.Ignores (m : AttachedMacro) (attrs : List Attribute) (gone : Marker → Bool) :
    Prop :=
  ∀ k, gone k = true → m ∉ k.consumers ∧ k.isConsumed attrs = true

namespace AttachedMacro.Ignores

variable {m : AttachedMacro} {attrs : List Attribute} {gone : Marker → Bool}

/-- The markers that the macro reads are not among those it ignores. -/
theorem stays (h : m.Ignores attrs gone) {k : Marker} (hk : m ∈ k.consumers) :
    gone k = false := by
  cases hgone : gone k with
  | false => rfl
  | true => exact absurd hk (h k hgone).1

/-- The markers that a macro among the attributes reads are not among those
    that are ignored. -/
theorem stays_of_isAmong (h : m.Ignores attrs gone) {n : AttachedMacro}
    (hn : n.isAmong attrs = true) {k : Marker} (hk : n ∈ k.consumers) : gone k = false := by
  cases hgone : gone k with
  | false => rfl
  | true =>
      have hconsumed := (h k hgone).2
      unfold Marker.isConsumed at hconsumed
      rw [Bool.not_eq_true', List.any_eq_false] at hconsumed
      exact absurd hn (hconsumed n hk)

end AttachedMacro.Ignores

namespace Property.Agree

variable {gone : Marker → Bool} {p q : Property}

theorem isComputed (h : Agree gone p q) : q.isComputed = p.isComputed := by
  unfold Property.isComputed
  rw [h.ty]

theorem isOptional (h : Agree gone p q) : q.isOptional = p.isOptional := by
  unfold Property.isOptional Property.optionInner?
  rw [h.ty]

/-- A property's own value is read from value markers. -/
theorem ownInitial (h : Agree gone p q) (hdefault : gone .default = false) :
    q.ownInitial = p.ownInitial := by
  unfold Property.ownInitial
  rw [h.initial hdefault, h.isOptional]

/-- The value in a test value is read from stub markers and value markers. -/
theorem stubInitial (h : Agree gone p q) (hdefault : gone .default = false)
    (hstub : gone .stub = false) : q.stubInitial = p.stubInitial := by
  unfold Property.stubInitial
  rw [h.stub hstub, h.ty, h.ownInitial hdefault]

/-- A constructor reads the markers that its macro consumes. -/
theorem kindInitial (h : Agree gone p q) {kind : ConstructorKind}
    (hreads : ∀ k : Marker, kind.attached ∈ k.consumers → gone k = false) :
    kind.initial q = kind.initial p := by
  cases kind with
  | memberwise => exact h.ownInitial (hreads .default (by decide))
  | stub => exact h.stubInitial (hreads .default (by decide)) (hreads .stub (by decide))

/-- The parameter of a property. -/
theorem parameter (h : Agree gone p q) {kind : ConstructorKind}
    (hreads : ∀ k : Marker, kind.attached ∈ k.consumers → gone k = false) :
    Parameter.ofProperty? kind.initial q = Parameter.ofProperty? kind.initial p := by
  unfold Parameter.ofProperty?
  rw [h.name, h.ty, h.kindInitial hreads]

/-- The builder field of a property is read from value markers. -/
theorem builderField (h : Agree gone p q) (hdefault : gone .default = false) :
    BuilderField.ofProperty? q = BuilderField.ofProperty? p := by
  unfold BuilderField.ofProperty?
  rw [h.name, h.ty, h.initial hdefault, h.isOptional]

/-- The conversion of a property is read from its own kind of marker. -/
theorem conversion? (h : Agree gone p q) (hparse : gone .parseable = false) :
    q.conversion? = p.conversion? := by
  unfold Property.conversion?
  rw [h.name, h.ty, h.recursiveParse hparse]

end Property.Agree

section Agreement

variable {gone : Marker → Bool} {ps qs : List Property}

/-- A test that does not tell properties that agree apart keeps lists that
    agree. -/
theorem forall₂_filter_agree {test : Property → Bool}
    (htest : ∀ p q, Property.Agree gone p q → test q = test p)
    (h : List.Forall₂ (Property.Agree gone) ps qs) :
    List.Forall₂ (Property.Agree gone) (ps.filter test) (qs.filter test) := by
  refine List.rel_filter ?_ h
  intro p q hpq
  exact (iff_of_eq (congrArg (· = true) (htest p q hpq))).symm

/-- Of two lists that agree, the stored parts agree. -/
theorem forall₂_stored (h : List.Forall₂ (Property.Agree gone) ps qs) :
    List.Forall₂ (Property.Agree gone) (Property.stored ps) (Property.stored qs) := by
  refine forall₂_filter_agree ?_ h
  intro p q hpq
  unfold Property.isStored
  rw [hpq.isComputed, hpq.isStatic, hpq.name]

/-- Of two lists that agree, the typed parts agree. -/
theorem forall₂_typed (h : List.Forall₂ (Property.Agree gone) ps qs) :
    List.Forall₂ (Property.Agree gone) (Property.typed ps) (Property.typed qs) :=
  forall₂_filter_agree (fun _ _ hpq => by rw [hpq.ty]) (forall₂_stored h)

/-- Two lists that agree have the same fields without data. -/
theorem phantoms_agree (h : List.Forall₂ (Property.Agree gone) ps qs) :
    Property.phantoms qs = Property.phantoms ps := by
  have hcomputed : List.Forall₂ (Property.Agree gone)
      (ps.filter fun p => p.isComputed && p.name.isSome)
      (qs.filter fun p => p.isComputed && p.name.isSome) :=
    forall₂_filter_agree (fun _ _ hpq => by rw [hpq.isComputed, hpq.name]) h
  exact (filterMap_congr_of_forall₂ (fun p q hpq => hpq.name.symm) hcomputed).symm

/-- Two lists that agree have equally many properties without a type, so the
    same problems are reported. -/
theorem requireTypes_agree (m : AttachedMacro) (h : List.Forall₂ (Property.Agree gone) ps qs) :
    (requireTypes m (Property.stored qs)).2.map Diagnostic.problem
      = (requireTypes m (Property.stored ps)).2.map Diagnostic.problem := by
  have hmissing : List.Forall₂ (Property.Agree gone)
      ((Property.stored ps).filter fun p => p.ty.isNone)
      ((Property.stored qs).filter fun p => p.ty.isNone) :=
    forall₂_filter_agree (fun _ _ hpq => by rw [hpq.ty]) (forall₂_stored h)
  show List.map _ (List.map _ _) = List.map _ (List.map _ _)
  rw [List.map_map, List.map_map]
  show List.map (fun _ => Problem.typeRequired m) _ = List.map (fun _ => Problem.typeRequired m) _
  rw [List.map_const', List.map_const', hmissing.length_eq]

end Agreement

/-! ## Macros on structures -/

/-- A structure without some kinds of markers. -/
def StructDecl.without (gone : Marker → Bool) (s : StructDecl) : StructDecl :=
  { s with fields := s.fields.map (Field.without gone) }

/-- A macro on a structure says the same without some kinds of markers, if it
    generates the same from properties that agree. -/
theorem expandStruct_without {α : Type} (m : AttachedMacro) (a : Attachment) {s : StructDecl}
    {ps : List Property} (hread : (Item.struct s).properties = .ok ps) (gone : Marker → Bool)
    {generate : StructTarget → Except Crash α}
    (hgenerate : ∀ qs, List.Forall₂ (Property.Agree gone) ps qs →
      generate (.ofProperties a (s.without gone) qs) = generate (.ofProperties a s ps)) :
    (expandStruct m a (.struct (s.without gone)) generate).map Expansion.content
      = (expandStruct m a (.struct s) generate).map Expansion.content := by
  obtain ⟨qs, hqs, hagree⟩ := Property.mapM_ofField_without gone hread
  have hread' : (Item.struct (s.without gone)).properties = .ok qs := by
    show List.mapM Property.ofField (s.fields.map (Field.without gone)).list = .ok qs
    rw [Fields.list_map]
    exact hqs
  have hempty : (Property.typed qs).isEmpty = (Property.typed ps).isEmpty := by
    rw [Bool.eq_iff_iff, List.isEmpty_iff_length_eq_zero, List.isEmpty_iff_length_eq_zero,
      (forall₂_typed hagree).length_eq]
  rw [expandStruct_eq m a hread, expandStruct_eq m a hread', hgenerate qs hagree, hempty]
  cases (Property.typed ps).isEmpty with
  | true =>
      rw [if_pos rfl, if_pos rfl]
      show Except.ok (_, _) = Except.ok (_, _)
      rw [requireTypes_agree m hagree]
  | false =>
      rw [if_neg (by simp), if_neg (by simp)]
      cases generate (.ofProperties a s ps) with
      | error c => rfl
      | ok g =>
          show Except.ok ([g], _) = Except.ok ([g], _)
          rw [requireTypes_agree m hagree]

/-- The parameters of a constructor are read from the markers that its macro
    consumes. -/
theorem parameters_agree {gone : Marker → Bool} {ps qs : List Property} (kind : ConstructorKind)
    (hreads : ∀ k : Marker, kind.attached ∈ k.consumers → gone k = false)
    (h : List.Forall₂ (Property.Agree gone) ps qs) :
    kind.parameters (Property.typed qs) = kind.parameters (Property.typed ps) :=
  (filterMap_congr_of_forall₂ (fun _ _ hpq => (hpq.parameter hreads).symm) (forall₂_typed h)).symm

/-- A constructor reads the markers of its own macro, and those of the other
    kind of constructor only while that is attached. -/
theorem constructor_without (kind : ConstructorKind) (a : Attachment) {s : StructDecl}
    {ps : List Property} (hread : (Item.struct s).properties = .ok ps) {gone : Marker → Bool}
    (hgone : kind.attached.Ignores s.attrs gone) :
    (Constructor.expand kind a (.struct (s.without gone))).map Expansion.content
      = (Constructor.expand kind a (.struct s)).map Expansion.content := by
  refine expandStruct_without kind.attached a hread gone ?_
  intro qs hagree
  have hown : kind.parameters (Property.typed qs) = kind.parameters (Property.typed ps) :=
    parameters_agree kind (fun _ hk => hgone.stays hk) hagree
  have hpending : (Item.struct (s.without gone)).isPending kind.sibling.attached
      = kind.sibling.attached.isAmong s.attrs := rfl
  -- the parameters of the sibling count only if it is still to run
  have hcovered : (if kind.sibling.attached.isAmong s.attrs = true then
        kind.sibling.parameters (Property.typed qs) else [])
      = (if kind.sibling.attached.isAmong s.attrs = true then
        kind.sibling.parameters (Property.typed ps) else []) := by
    cases hamong : kind.sibling.attached.isAmong s.attrs with
    | false => rfl
    | true =>
        rw [if_pos rfl, if_pos rfl]
        exact parameters_agree kind.sibling (fun _ hk => hgone.stays_of_isAmong hamong hk) hagree
  show Except.ok (Constructor.mk _ _ _ _ _ _) = Except.ok (Constructor.mk _ _ _ _ _ _)
  unfold StructTarget.ofProperties
  simp only [hown, phantoms_agree hagree, hpending]
  rw [hcovered]
  rfl

/-- A builder reads value markers. -/
theorem builder_without (a : Attachment) {s : StructDecl} {ps : List Property}
    (hread : (Item.struct s).properties = .ok ps) {gone : Marker → Bool}
    (hgone : AttachedMacro.builder.Ignores s.attrs gone) :
    (Builder.expand a (.struct (s.without gone))).map Expansion.content
      = (Builder.expand a (.struct s)).map Expansion.content := by
  refine expandStruct_without .builder a hread gone ?_
  intro qs hagree
  have hfields : (Property.typed qs).filterMap BuilderField.ofProperty?
      = (Property.typed ps).filterMap BuilderField.ofProperty? :=
    (filterMap_congr_of_forall₂
      (fun _ _ hpq => (hpq.builderField (hgone.stays (by decide))).symm) (forall₂_typed hagree)).symm
  unfold Builder.ofTarget StructTarget.ofProperties
  simp only [hfields, phantoms_agree hagree]
  rfl

/-- A conversion reads its own kind of marker. -/
theorem conversion_without (a : Attachment) {s : StructDecl} {ps : List Property}
    (hread : (Item.struct s).properties = .ok ps) {gone : Marker → Bool}
    (hgone : AttachedMacro.conversion.Ignores s.attrs gone) :
    (Conversion.expand a (.struct (s.without gone))).map Expansion.content
      = (Conversion.expand a (.struct s)).map Expansion.content := by
  unfold Conversion.expand
  cases a.source with
  | none => rfl
  | some source =>
      refine expandStruct_without .conversion a hread gone ?_
      intro qs hagree
      have hvalues : (Property.typed qs).filterMap Property.conversion?
          = (Property.typed ps).filterMap Property.conversion? :=
        (filterMap_congr_of_forall₂
          (fun _ _ hpq => (hpq.conversion? (hgone.stays (by decide))).symm)
          (forall₂_typed hagree)).symm
      unfold Conversion.ofTarget StructTarget.ofProperties
      simp only [hvalues, phantoms_agree hagree]
      rfl

/-! ## Wrappers -/

/-- A trait without some kinds of markers. -/
def TraitDecl.without (gone : Marker → Bool) (t : TraitDecl) : TraitDecl :=
  { t with items := t.items.map (TraitItem.without gone) }

/-- How a member of a trait is forwarded depends on one kind of marker only. -/
theorem wrapperMember_without {gone : Marker → Bool} (hproperty : gone .property = false)
    (member : TraitItem) : (member.without gone).wrapperMember = member.wrapperMember := by
  cases member with
  | method m =>
      have hmarked : TraitMethod.isProperty { m with attrs := Attribute.without gone m.attrs }
          = m.isProperty :=
        Attribute.any_isMarker_without hproperty m.attrs
      show (if TraitMethod.isProperty { m with attrs := Attribute.without gone m.attrs } then _
        else _) = _
      rw [hmarked]
      rfl
  | _ => rfl

/-- A wrapper reads the markers of properties, and its reports stand at parts of
    a trait that carry no markers. -/
theorem wrapper_without (a : Attachment) (t : TraitDecl) {gone : Marker → Bool}
    (hgone : AttachedMacro.erasure.Ignores t.attrs gone) :
    Wrapper.expand a (.trait (t.without gone)) = Wrapper.expand a (.trait t) := by
  have hproperty : gone .property = false := hgone.stays (by decide)
  have hmembers : Wrapper.membersOf (t.without gone) = Wrapper.membersOf t := by
    unfold Wrapper.membersOf TraitDecl.without
    simp only [List.filterMap_map, Function.comp_def, wrapperMember_without hproperty]
  have htype : ∀ member : TraitItem, (member.without gone).typeReport? = member.typeReport? := by
    intro member
    cases member <;> rfl
  have hreports : Wrapper.reportsOf (t.without gone) = Wrapper.reportsOf t := by
    unfold Wrapper.reportsOf TraitDecl.without
    simp only [List.filterMap_map, Function.comp_def, wrapperMember_without hproperty, htype]
  have hany : (t.without gone).methods.any TraitMethod.isProperty
      = t.methods.any TraitMethod.isProperty := by
    unfold TraitDecl.methods TraitDecl.without
    simp only [List.any_filterMap, List.any_map]
    congr 1
    funext member
    cases member with
    | method m => exact Attribute.any_isMarker_without hproperty m.attrs
    | _ => rfl
  unfold Wrapper.expand
  simp only [hmembers, hreports, hany]
  rfl

/-! ## All macros -/

/-- Expansions that say the same still do when what they generate is packed. -/
theorem content_map_congr {α β : Type} (f : α → β) {x y : Except Crash (Expansion α)}
    (h : x.map Expansion.content = y.map Expansion.content) :
    (x.map (Expansion.map f)).map Expansion.content
      = (y.map (Expansion.map f)).map Expansion.content := by
  have hcontent : ∀ z : Except Crash (Expansion α),
      (z.map (Expansion.map f)).map Expansion.content
        = (z.map Expansion.content).map fun c => (c.1.map f, c.2) := by
    intro z
    cases z <;> rfl
  rw [hcontent, hcontent, h]

/-- **A macro does not miss markers that it does not read.**  On an item that can
    be read, it generates the same and reports the same problems with and
    without markers that neither it nor a macro among the item's attributes
    reads. -/
theorem AttachedMacro.expand_without (m : AttachedMacro) (a : Attachment) {item : Item}
    {ps : List Property} (hread : item.properties = .ok ps) {gone : Marker → Bool}
    (hgone : m.Ignores item.attrs gone) :
    (m.expand a (item.without gone)).map Expansion.content
      = (m.expand a item).map Expansion.content := by
  cases item with
  | struct s =>
      cases m with
      | constructor => exact content_map_congr _ (constructor_without .memberwise a hread hgone)
      | stub => exact content_map_congr _ (constructor_without .stub a hread hgone)
      | builder => exact content_map_congr _ (builder_without a hread hgone)
      | conversion => exact content_map_congr _ (conversion_without a hread hgone)
      | accessors => rfl
      | erasure => rfl
  | trait t =>
      cases m with
      | erasure =>
          exact content_map_congr _ (congrArg (Except.map _) (wrapper_without a t hgone))
      | _ => rfl
  | _ => rfl

end DeclMacros
