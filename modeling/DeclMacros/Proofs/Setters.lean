import DeclMacros.Proofs.Generation

/-! # The setters of a structure over a whole run

    A constructor and a test factory each come with a setter for every field that
    they fill in by themselves.  When both are attached, the one that runs first
    leaves to the other what that one fills in too.

    The route: what one turn emits is read off the properties of the declaration
    as it is written (`mem_settersAt`), since stripping is not seen.  Along the
    schedule, the setters emitted from a turn on are exactly those that the
    constructors still attached owe (`mem_emitted_iff`), and none is emitted
    twice if neither macro is attached twice (`nodup_emitted`).  Together they
    give the main theorem: whatever the order of the macros, the setters of a run
    are the owed ones, each once.

    The setters are looked for in the program that the run emits.  No other function
    of the structure is one (`Item.filter_methods_code`), so they are counted there
    as they are in the records. -/

set_option autoImplicit false

namespace DeclMacros

/-! ## What a turn emits -/

/-- The setters in what a macro generates: those that a constructor comes with. -/
def Generated.setters : Generated → List Setter
  | .constructor c => c.setters
  | _ => []

/-- The setters that all macros of an item generate. -/
def Item.setters (item : Item) : List Setter := item.generated.flatMap Generated.setters

/-- The setters in what a step comes to. -/
def StepContent.setters (c : StepContent) : List Setter :=
  match c.outcome with
  | .ok (items, _) => items.flatMap Generated.setters
  | .error _ => []

/-- The kind of constructor that a macro generates. -/
def AttachedMacro.kind? : AttachedMacro → Option ConstructorKind
  | .constructor => some .memberwise
  | .stub => some .stub
  | _ => none

/-- A constructor is generated by the macro of its kind. -/
theorem AttachedMacro.kind?_eq_some_iff {m : AttachedMacro} {k : ConstructorKind} :
    m.kind? = some k ↔ m = k.attached := by
  cases m <;> cases k <;> decide

/-- The other parameters that a constructor leaves setters to, given the
    attributes that are left. -/
def ConstructorKind.covered (k : ConstructorKind) (remaining : List Attribute)
    (ps : List Property) : List Parameter :=
  if k.sibling.attached.isAmong remaining then k.sibling.parameters ps else []

/-- The setters that a turn emits for a structure with these properties. -/
def settersAt (ps : List Property) (t : Turn) : List Setter :=
  match t.attached.kind? with
  | some k =>
    Parameter.setters (k.parameters (Property.typed ps)) (k.covered t.remaining (Property.typed ps))
  | none => []

/-- The setters of a constructor, whether or not there is anything to construct. -/
theorem constructor_setters {s : StructDecl} {ps : List Property}
    (hread : (Item.struct s).properties = .ok ps) {k : ConstructorKind} {a : Attachment}
    {e : Expansion Constructor} (h : Constructor.expand k a (.struct s) = .ok e) :
    e.items.flatMap Constructor.setters
      = Parameter.setters (k.parameters (Property.typed ps))
          (k.covered s.attrs (Property.typed ps)) := by
  rw [Constructor.expand, expandStruct_eq k.attached a hread] at h
  cases hempty : (Property.typed ps).isEmpty with
  | true =>
      rw [hempty, if_pos rfl] at h
      rw [← Except.ok.inj h, List.isEmpty_iff.mp hempty]
      rfl
  | false =>
      rw [hempty, if_neg (by simp)] at h
      rw [← Except.ok.inj h]
      show List.flatMap _ [_] = _
      rw [List.flatMap_singleton]
      rfl

/-- The setters in what an expansion generates. -/
theorem expand_setters {s : StructDecl} {ps : List Property}
    (hread : (Item.struct s).properties = .ok ps) {m : AttachedMacro} {a : Attachment}
    {e : Expansion Generated} (h : m.expand a (.struct s) = .ok e) (attr : Attribute) :
    e.items.flatMap Generated.setters = settersAt ps ⟨m, attr, s.attrs⟩ := by
  cases m with
  | constructor =>
      obtain ⟨inner, hinner, rfl⟩ := exists_of_packed h
      exact (List.flatMap_map ..).trans (constructor_setters hread hinner)
  | stub =>
      obtain ⟨inner, hinner, rfl⟩ := exists_of_packed h
      exact (List.flatMap_map ..).trans (constructor_setters hread hinner)
  | _ =>
      obtain ⟨inner, -, rfl⟩ := exists_of_packed h
      exact (List.flatMap_map ..).trans (List.flatMap_eq_nil_iff.mpr fun _ _ => rfl)

/-- The arguments of the macro that the attribute attaches, if it attaches one,
    can be read. -/
def Attribute.argumentsRead (a : Attribute) : Bool :=
  match a.attached? with
  | some m => (Attachment.read a.argumentTokens m.acceptsSource).isOk
  | none => true

/-- What a turn on the declaration as it is written emits. -/
theorem contentOn_setters {s : StructDecl} {ps : List Property}
    (hread : (Item.struct s).properties = .ok ps) {t : Turn} {c : StepContent}
    (hattached : t.attr.attached? = some t.attached) (hargs : t.attr.argumentsRead = true)
    (h : t.contentOn (.struct s) = .ok c) : c.setters = settersAt ps t := by
  rw [Attribute.argumentsRead, hattached] at hargs
  rcases Turn.contentOn_cases h with ⟨f, hfault, -⟩ | ⟨a, e, -, hexpand, hout⟩
  · simp only [hfault] at hargs
    exact nomatch hargs
  · have hread' : (Item.struct { s with attrs := t.remaining }).properties = .ok ps := hread
    rw [StepContent.setters, hout]
    exact expand_setters hread' hexpand t.attr

/-! ## Which properties a turn emits setters for -/

/-- The constructor fills in the property by itself. -/
def ConstructorKind.fills (k : ConstructorKind) (p : Property) : Bool := (k.initial p).isSome

/-- The setter of a property that has a name and a type. -/
def Property.setter? (p : Property) : Option Setter :=
  match p.name, p.ty with
  | some name, some ty => some { name := name.setterName, field := name, ty := ty }
  | _, _ => none

/-- The parameter of a property has its name and type, and the value that the
    constructor fills in. -/
theorem Parameter.ofProperty?_eq_some_iff {k : ConstructorKind} {p : Property} {q : Parameter} :
    Parameter.ofProperty? k.initial p = some q
      ↔ p.name = some q.name ∧ p.ty = some q.ty ∧ q.initial = k.initial p := by
  rw [Parameter.ofProperty?]
  cases p.name with
  | none => exact ⟨fun h => (nomatch h), fun h => (nomatch h.1)⟩
  | some name =>
      cases p.ty with
      | none => exact ⟨fun h => (nomatch h), fun h => (nomatch h.2.1)⟩
      | some ty =>
          constructor
          · intro h
            rw [← Option.some.inj h]
            exact ⟨rfl, rfl, rfl⟩
          · rintro ⟨hname, hty, hinitial⟩
            show some (Parameter.mk name ty (k.initial p)) = some q
            rw [Option.some.inj hname, Option.some.inj hty, ← hinitial]

section Turns

variable {ps : List Property}

/-- Among properties with different names, a parameter is covered exactly when
    the other constructor fills in its property. -/
theorem isCovered_iff (hkeys : ((Property.typed ps).map Property.key).Nodup)
    {k other : ConstructorKind} {p : Property} {q : Parameter} (hp : p ∈ Property.typed ps)
    (hq : Parameter.ofProperty? k.initial p = some q) :
    q.isCovered (other.parameters (Property.typed ps)) = true ↔ other.fills p = true := by
  obtain ⟨hname, hty, -⟩ := Parameter.ofProperty?_eq_some_iff.mp hq
  rw [Parameter.isCovered, List.any_eq_true]
  constructor
  · rintro ⟨c, hc, hsame⟩
    obtain ⟨r, hr, hcr⟩ := List.mem_filterMap.mp hc
    obtain ⟨hname', -, hinitial⟩ := Parameter.ofProperty?_eq_some_iff.mp hcr
    rw [Bool.and_eq_true] at hsame
    have htext : c.name.text = q.name.text := by
      have := hsame.2
      rw [Ident.same, Bool.and_eq_true, beq_iff_eq] at this
      exact this.1
    have hkey : r.key = p.key := by
      rw [Property.key, Property.key, hname, hname']
      exact htext
    -- the names are the same, so it is the same property
    rw [Property.eq_of_key_eq hkeys hr hp hkey] at hinitial
    have hfilled := hsame.1
    rw [Parameter.isRequired, hinitial, Option.not_isNone] at hfilled
    exact hfilled
  · intro hfills
    refine ⟨⟨q.name, q.ty, other.initial p⟩, List.mem_filterMap.mpr ⟨p, hp, ?_⟩, ?_⟩
    · exact Parameter.ofProperty?_eq_some_iff.mpr ⟨hname, hty, rfl⟩
    · rw [Bool.and_eq_true]
      refine ⟨?_, by simp [Ident.same]⟩
      rw [Parameter.isRequired, Option.not_isNone]
      exact hfills

/-- A turn emits the setters of the properties that its constructor fills in,
    except those that a constructor still attached fills in too. -/
theorem mem_settersAt (hkeys : ((Property.typed ps).map Property.key).Nodup) {t : Turn}
    {x : Setter} :
    x ∈ settersAt ps t ↔ ∃ p ∈ Property.typed ps, ∃ k : ConstructorKind,
      t.attached = k.attached ∧ k.fills p = true
        ∧ ¬ (k.sibling.attached.isAmong t.remaining = true ∧ k.sibling.fills p = true)
        ∧ p.setter? = some x := by
  -- what it means that a parameter is left to the sibling
  have hcovered : ∀ {k : ConstructorKind} {p : Property} {q : Parameter},
      p ∈ Property.typed ps → Parameter.ofProperty? k.initial p = some q →
      (q.isCovered (k.covered t.remaining (Property.typed ps)) = true
        ↔ k.sibling.attached.isAmong t.remaining = true ∧ k.sibling.fills p = true) := by
    intro k p q hp hq
    rw [ConstructorKind.covered]
    by_cases hamong : k.sibling.attached.isAmong t.remaining = true
    · rw [if_pos hamong, isCovered_iff hkeys hp hq]
      exact ⟨fun h => ⟨hamong, h⟩, fun h => h.2⟩
    · rw [if_neg hamong]
      exact ⟨fun h => (nomatch h), fun h => absurd h.1 hamong⟩
  have hsetter : ∀ {k : ConstructorKind} {p : Property} {q : Parameter},
      Parameter.ofProperty? k.initial p = some q → p.setter? = some q.setter := by
    intro k p q hq
    obtain ⟨hname, hty, -⟩ := Parameter.ofProperty?_eq_some_iff.mp hq
    rw [Property.setter?, hname, hty]
    rfl
  constructor
  · intro hx
    rw [settersAt] at hx
    cases hkind : t.attached.kind? with
    | none => rw [hkind] at hx; exact nomatch hx
    | some k =>
        rw [hkind] at hx
        obtain ⟨q, hq, rfl⟩ := List.mem_map.mp hx
        obtain ⟨hq, htest⟩ := List.mem_filter.mp hq
        obtain ⟨p, hp, hpq⟩ := List.mem_filterMap.mp hq
        rw [Bool.and_eq_true, Bool.not_eq_true'] at htest
        obtain ⟨hfilled, huncovered⟩ := htest
        refine ⟨p, hp, k, AttachedMacro.kind?_eq_some_iff.mp hkind, ?_, ?_, hsetter hpq⟩
        · rw [Parameter.isRequired, (Parameter.ofProperty?_eq_some_iff.mp hpq).2.2] at hfilled
          rw [ConstructorKind.fills, ← Option.not_isNone, hfilled]
          rfl
        · intro hboth
          rw [(hcovered hp hpq).mpr hboth] at huncovered
          exact nomatch huncovered
  · rintro ⟨p, hp, k, hattached, hfills, huncovered, hx⟩
    obtain ⟨name, ty, hname, hty⟩ := Property.exists_of_mem_typed hp
    have hpq : Parameter.ofProperty? k.initial p = some ⟨name, ty, k.initial p⟩ :=
      Parameter.ofProperty?_eq_some_iff.mpr ⟨hname, hty, rfl⟩
    rw [settersAt, AttachedMacro.kind?_eq_some_iff.mpr hattached]
    refine List.mem_map.mpr ⟨⟨name, ty, k.initial p⟩, List.mem_filter.mpr
      ⟨List.mem_filterMap.mpr ⟨p, hp, hpq⟩, ?_⟩, ?_⟩
    · rw [Bool.and_eq_true, Parameter.isRequired, Option.not_isNone, Bool.not_eq_true',
        Bool.eq_false_iff]
      exact ⟨hfills, fun h => huncovered ((hcovered hp hpq).mp h)⟩
    · exact Option.some.inj ((hsetter hpq).symm.trans hx)

/-! ## All turns -/

/-- The setters that the macros among the attributes emit, turn by turn. -/
def emitted (ps : List Property) (attrs : List Attribute) : List Setter :=
  (Turn.schedule attrs).flatMap (settersAt ps)

/-- The first turn emits its setters before those of the turns that are left. -/
theorem emitted_cons {pre post : List Attribute} {a : Attribute} {m : AttachedMacro}
    (hpre : ∀ b ∈ pre, b.attached? = none) (ha : a.attached? = some m) :
    emitted ps (pre ++ a :: post)
      = settersAt ps ⟨m, a, pre ++ post⟩ ++ emitted ps (pre ++ post) := by
  rw [emitted, Turn.schedule_cons hpre ha]
  rfl

/-- Over all turns, the setters emitted are those of the properties that some
    attached constructor fills in.  A setter that is left to the other
    constructor is emitted in a later turn. -/
theorem mem_emitted_iff (hkeys : ((Property.typed ps).map Property.key).Nodup)
    (attrs : List Attribute) (x : Setter) :
    x ∈ emitted ps attrs ↔ ∃ p ∈ Property.typed ps,
      (∃ k : ConstructorKind, k.attached.isAmong attrs = true ∧ k.fills p = true)
        ∧ p.setter? = some x := by
  induction attrs using Turn.schedule_induction with
  | hnone attrs hnone =>
      rw [emitted, Turn.schedule_eq_nil hnone]
      constructor
      · intro hx
        exact nomatch hx
      · rintro ⟨p, -, ⟨k, hamong, -⟩, -⟩
        obtain ⟨a, ha, hattached⟩ := AttachedMacro.isAmong_iff.mp hamong
        rw [hnone a ha] at hattached
        exact nomatch hattached
  | hturn pre a post m hpre ha ih =>
      rw [emitted_cons hpre ha, List.mem_append, ih, mem_settersAt hkeys]
      constructor
      · rintro (⟨p, hp, k, hm, hfills, -, hx⟩ | ⟨p, hp, ⟨k, hamong, hfills⟩, hx⟩)
        · exact ⟨p, hp, ⟨k, (AttachedMacro.isAmong_turn ha _).mpr (.inl hm.symm), hfills⟩, hx⟩
        · exact ⟨p, hp, ⟨k, (AttachedMacro.isAmong_turn ha _).mpr (.inr hamong), hfills⟩, hx⟩
      · rintro ⟨p, hp, ⟨k, hamong, hfills⟩, hx⟩
        rcases (AttachedMacro.isAmong_turn ha _).mp hamong with hm | hlater
        · -- the turn is the constructor's own: it emits the setter, or a later turn does
          by_cases hleft : k.sibling.attached.isAmong (pre ++ post) = true
              ∧ k.sibling.fills p = true
          · exact .inr ⟨p, hp, ⟨k.sibling, hleft⟩, hx⟩
          · exact .inl ⟨p, hp, k, hm.symm, hfills, hleft, hx⟩
        · exact .inr ⟨p, hp, ⟨k, hlater, hfills⟩, hx⟩

/-- The setter of a property is named for its key and sets the field of that
    key to the value it is given. -/
theorem Property.setter?_spec {p : Property} {x : Setter} (h : p.setter? = some x) :
    x.name.text = "with_" ++ p.key ∧ x.field.text = p.key ∧ x.wraps = false := by
  rw [Property.setter?] at h
  cases hname : p.name with
  | none => rw [hname] at h; exact nomatch h
  | some name =>
      cases hty : p.ty with
      | none => rw [hname, hty] at h; exact nomatch h
      | some ty =>
          rw [hname, hty] at h
          rw [← Option.some.inj h, Property.key, hname]
          exact ⟨rfl, rfl, rfl⟩

/-- Setters of properties with different keys have different names. -/
theorem with_injective {x y : String} (h : "with_" ++ x = "with_" ++ y) : x = y :=
  (String.append_right_inj "with_").mp h

/-- Things that are named as the setters of properties with different keys have
    different names. -/
theorem nodup_setter_names {β : Type} {f : Property → Option β} {name : β → String}
    {l : List Property} (hkeys : (l.map Property.key).Nodup)
    (h : ∀ p ∈ l, (f p).map name = some ("with_" ++ p.key)) :
    ((l.filterMap f).map name).Nodup := by
  have hnames : (l.filterMap f).map name = (l.map Property.key).map ("with_" ++ ·) := by
    rw [List.map_filterMap, List.map_map, ← List.filterMap_eq_map]
    exact List.filterMap_congr h
  rw [hnames]
  exact hkeys.map fun _ _ heq => with_injective heq

/-- One turn emits setters with different names. -/
theorem nodup_settersAt (hkeys : ((Property.typed ps).map Property.key).Nodup) (t : Turn) :
    ((settersAt ps t).map fun x => x.name.text).Nodup := by
  rw [settersAt]
  cases t.attached.kind? with
  | none => exact List.nodup_nil
  | some k =>
      have hall : ((k.parameters (Property.typed ps)).map fun q => q.setter.name.text).Nodup := by
        refine nodup_setter_names hkeys ?_
        intro p hp
        obtain ⟨name, ty, hname, hty⟩ := Property.exists_of_mem_typed hp
        have hpq : Parameter.ofProperty? k.initial p = some ⟨name, ty, k.initial p⟩ :=
          Parameter.ofProperty?_eq_some_iff.mpr ⟨hname, hty, rfl⟩
        rw [hpq, Property.key, hname]
        rfl
      show (List.map _ (List.map Parameter.setter (List.filter _ _))).Nodup
      rw [List.map_map]
      exact (List.filter_sublist.map _).nodup hall

/-- No setter is emitted twice, if each constructor is attached at most once: what
    the first one leaves to the other it does not emit itself. -/
theorem nodup_emitted (hkeys : ((Property.typed ps).map Property.key).Nodup)
    {attrs : List Attribute}
    (honce : ∀ k : ConstructorKind, attrs.countP (·.named k.attached.name) ≤ 1) :
    ((emitted ps attrs).map fun x => x.name.text).Nodup := by
  induction attrs using Turn.schedule_induction with
  | hnone attrs hnone =>
      rw [emitted, Turn.schedule_eq_nil hnone]
      exact List.nodup_nil
  | hturn pre a post m hpre ha ih =>
      have hfewer : ∀ k : ConstructorKind,
          (pre ++ post).countP (·.named k.attached.name)
            + (if a.named k.attached.name = true then 1 else 0)
            = (pre ++ a :: post).countP (·.named k.attached.name) := by
        intro k
        rw [List.countP_append, List.countP_append, List.countP_cons]
        omega
      have hrest := ih fun k => by have := honce k; have := hfewer k; omega
      rw [emitted_cons hpre ha, List.map_append, List.nodup_append']
      refine ⟨nodup_settersAt hkeys _, hrest, ?_⟩
      intro name hnow hlater
      obtain ⟨x, hx, rfl⟩ := List.mem_map.mp hnow
      obtain ⟨y, hy, hxy⟩ := List.mem_map.mp hlater
      obtain ⟨p, hp, k, hm, hfills, hnotleft, hpx⟩ := (mem_settersAt hkeys).mp hx
      obtain ⟨q, hq, ⟨l, hamong, hfills'⟩, hqy⟩ := (mem_emitted_iff hkeys _ y).mp hy
      have hqp : q = p := by
        refine Property.eq_of_key_eq hkeys hq hp (with_injective ?_)
        rw [← (Property.setter?_spec hpx).1, ← (Property.setter?_spec hqy).1]
        exact hxy
      -- the constructor of this turn is not attached again, so the later one is its sibling
      have hne : l ≠ k := by
        rintro rfl
        have hm' : m = l.attached := hm
        obtain ⟨b, hb, hbl⟩ := AttachedMacro.isAmong_iff.mp hamong
        have hpos : 0 < (pre ++ post).countP (·.named l.attached.name) :=
          List.countP_pos_iff.mpr ⟨b, hb, Attribute.attached?_eq_some_iff.mp hbl⟩
        have hnamed : a.named l.attached.name = true :=
          Attribute.attached?_eq_some_iff.mp (hm' ▸ ha)
        have hcount := hfewer l
        rw [if_pos hnamed] at hcount
        have := honce l
        omega
      have hsibling : l = k.sibling := by
        revert hne
        cases l <;> cases k <;> decide
      rw [hqp, hsibling] at hfills'
      rw [hsibling] at hamong
      exact hnotleft ⟨hamong, hfills'⟩

end Turns

/-! ## What is owed -/

/-- The parameter model of a constructor has a value for the field of a name. -/
def ConstructorKind.fillsIn (k : ConstructorKind) (stored : List Property) (name : Ident) :
    Bool :=
  (k.parameters stored).any fun q => q.name.same name && !q.isRequired

/-- The setters that the constructors attached to a structure owe, in declaration
    order: one for each typed field for which the parameter model of an attached
    constructor has a value. -/
def StructDecl.owedSetters (s : StructDecl) (stored : List Property) : List Setter :=
  s.typedFields.filterMap fun f => f.name.bind fun name =>
    if [ConstructorKind.memberwise, .stub].any fun k =>
        k.attached.isAmong s.attrs && k.fillsIn stored name then
      some { name := name.setterName, field := name, ty := f.ty }
    else none

/-- Properties without a type have no parameters. -/
theorem parameters_stored (k : ConstructorKind) (ps : List Property) :
    k.parameters (Property.stored ps) = k.parameters (Property.typed ps) := by
  rw [ConstructorKind.parameters, ConstructorKind.parameters, Property.typed,
    List.filterMap_filter]
  refine List.filterMap_congr ?_
  intro p _
  cases hty : p.ty with
  | some ty => rfl
  | none =>
      rw [Parameter.ofProperty?, hty]
      cases p.name <;> rfl

/-- Among properties with different names, the model has a value for the name of
    a property exactly when the constructor fills it in. -/
theorem fillsIn_iff {ps : List Property} (hkeys : ((Property.typed ps).map Property.key).Nodup)
    {p : Property} {name : Ident} (hp : p ∈ Property.typed ps) (hname : p.name = some name)
    (k : ConstructorKind) : k.fillsIn (Property.stored ps) name = k.fills p := by
  obtain ⟨-, ty, -, hty⟩ := Property.exists_of_mem_typed hp
  have hpq : Parameter.ofProperty? k.initial p = some ⟨name, ty, k.initial p⟩ :=
    Parameter.ofProperty?_eq_some_iff.mpr ⟨hname, hty, rfl⟩
  rw [Bool.eq_iff_iff, ← isCovered_iff hkeys hp hpq, ConstructorKind.fillsIn, parameters_stored,
    Parameter.isCovered]
  simp only [Bool.and_comm]

/-- What is owed, read off the properties. -/
theorem owedSetters_eq {s : StructDecl} {ps : List Property}
    (hread : (Item.struct s).properties = .ok ps)
    (hkeys : ((Property.typed ps).map Property.key).Nodup) :
    s.owedSetters (Property.stored ps)
      = (Property.typed ps).filterMap fun p =>
          if [ConstructorKind.memberwise, .stub].any fun k =>
            k.attached.isAmong s.attrs && k.fills p then p.setter? else none := by
  refine filterMap_congr_of_forall₂ ?_
    (forall₂_and_mem (StructDecl.forall₂_typedFields hread))
  rintro f p ⟨hfp, hp⟩
  obtain ⟨name, ty, hname, hty⟩ := Property.exists_of_mem_typed hp
  have hfield : f.name = some name := (Property.ofField_fixed hfp).1.symm.trans hname
  have hsetter : p.setter? = some { name := name.setterName, field := name, ty := f.ty } := by
    rw [Property.setter?, hname, hty, Property.ty_eq_of_ofField hfp hty]
  rw [hfield, hsetter, Option.bind_some]
  simp only [fillsIn_iff hkeys hp hname]

/-- The setters owed have different names. -/
theorem nodup_owedSetters {s : StructDecl} {ps : List Property}
    (hread : (Item.struct s).properties = .ok ps)
    (hkeys : ((Property.typed ps).map Property.key).Nodup) :
    ((s.owedSetters (Property.stored ps)).map fun x => x.name.text).Nodup := by
  rw [owedSetters_eq hread hkeys, ← List.filterMap_filter]
  refine nodup_setter_names ((List.filter_sublist.map _).nodup hkeys) ?_
  intro p hp
  obtain ⟨name, ty, hname, hty⟩ := Property.exists_of_mem_typed (List.mem_of_mem_filter hp)
  have hsetter : p.setter? = some { name := name.setterName, field := name, ty := ty } := by
    rw [Property.setter?, hname, hty]
  rw [hsetter]
  exact congrArg some (Property.setter?_spec hsetter).1

/-- What is owed are the setters of the properties that an attached constructor
    fills in. -/
theorem mem_owedSetters_iff {s : StructDecl} {ps : List Property}
    (hread : (Item.struct s).properties = .ok ps)
    (hkeys : ((Property.typed ps).map Property.key).Nodup) (x : Setter) :
    x ∈ s.owedSetters (Property.stored ps) ↔ ∃ p ∈ Property.typed ps,
      (∃ k : ConstructorKind, k.attached.isAmong s.attrs = true ∧ k.fills p = true)
        ∧ p.setter? = some x := by
  have hany : ∀ p : Property, ([ConstructorKind.memberwise, .stub].any fun k =>
      k.attached.isAmong s.attrs && k.fills p) = true
      ↔ ∃ k : ConstructorKind, k.attached.isAmong s.attrs = true ∧ k.fills p = true := by
    intro p
    rw [List.any_eq_true]
    constructor
    · rintro ⟨k, -, hk⟩
      exact ⟨k, Bool.and_eq_true_iff.mp hk⟩
    · rintro ⟨k, hk⟩
      exact ⟨k, by cases k <;> simp, Bool.and_eq_true_iff.mpr hk⟩
  rw [owedSetters_eq hread hkeys, List.mem_filterMap]
  constructor
  · rintro ⟨p, hp, hx⟩
    by_cases howed : ([ConstructorKind.memberwise, .stub].any fun k =>
        k.attached.isAmong s.attrs && k.fills p) = true
    · rw [if_pos howed] at hx
      exact ⟨p, hp, (hany p).mp howed, hx⟩
    · rw [if_neg howed] at hx
      exact nomatch hx
  · rintro ⟨p, hp, howed, hx⟩
    exact ⟨p, hp, by rw [if_pos ((hany p).mpr howed)]; exact hx⟩

/-! ## The whole run -/

/-- The setters of a run are those that its turns emit, if the arguments of the
    macros can be read. -/
theorem Item.setters_eq_emitted {s : StructDecl} {ps : List Property} {steps : List MacroStep}
    (hread : (Item.struct s).properties = .ok ps)
    (hargs : ∀ a ∈ s.attrs, a.argumentsRead = true)
    (hrun : (Item.struct s).steps = .ok steps) :
    (Item.struct s).setters = emitted ps s.attrs := by
  have hsetters : (Item.struct s).setters
      = (steps.map MacroStep.content).flatMap StepContent.setters := by
    rw [Item.setters, Item.generated, hrun, List.flatMap_assoc, List.flatMap_map]
    refine List.flatMap_congr ?_
    intro step _
    rw [StepContent.setters, MacroStep.content, Applied.content]
    cases step.applied.outcome <;> rfl
  have hcontent := Item.steps_content hread
  rw [hrun] at hcontent
  have hturns : List.Forall₂ (fun t c => Turn.contentOn (.struct s) t = .ok c)
      (Turn.schedule s.attrs) (steps.map MacroStep.content) :=
    (mapM_eq_ok_iff _ _ _).mp hcontent.symm
  have hmem : ∀ t ∈ Turn.schedule s.attrs,
      t.attr.attached? = some t.attached ∧ t.attr.argumentsRead = true := by
    intro t ht
    obtain ⟨hattr, hattached⟩ := Turn.mem_schedule ht
    exact ⟨hattached, hargs t.attr hattr⟩
  rw [hsetters, emitted]
  symm
  refine flatMap_congr_of_forall₂ ?_ ((List.forall₂_and_left _ _).mpr ⟨hmem, hturns⟩)
  rintro t c ⟨⟨hattached, hread'⟩, htc⟩
  exact (contentOn_setters hread hattached hread' htc).symm

/-! ## The functions of the setters -/

namespace Method

/-- The function is named as a setter of a structure. -/
def isSetter (m : Method) : Bool := "with_".toList.isPrefixOf m.name.text.toList

/-- The function without its visibility. -/
def unscoped (m : Method) : Method := { m with vis := [] }

theorem isSetter_of_name {m : Method} {key : String} (h : m.name.text = "with_" ++ key) :
    m.isSetter = true := by
  rw [isSetter, h, String.toList_append, List.isPrefixOf_iff_prefix]
  exact List.prefix_append _ _

end Method

/-- The other functions of a structure are not named so. -/
theorem Generated.not_isSetter {m : Method}
    (h : m.name.text ∈ ["new", "stub", "builder", "from_raw"]) : ¬ m.isSetter = true := by
  have hnone : ["new", "stub", "builder", "from_raw"].all
      (fun name => !"with_".toList.isPrefixOf name.toList) = true := by decide
  rw [Method.isSetter, Bool.not_eq_true, ← Bool.not_eq_true']
  exact List.all_eq_true.mp hnone _ h

/-- Among the functions that something generated has for a structure, the setters are those of
    its setters, if these are named so. -/
theorem Generated.filter_ownMethods {g : Generated}
    (h : ∀ t ∈ g.setters, ∃ key, t.name.text = "with_" ++ key) :
    (g.ownMethods.filter Method.isSetter).map Method.unscoped
      = g.setters.map (Setter.method []) := by
  cases g with
  | constructor c =>
      have hfirst : ¬ c.method.isSetter = true := by
        refine not_isSetter ?_
        rw [Constructor.method]
        cases c.kind <;> simp [ConstructorKind.function]
      have hrest : ((c.setters.map (Setter.method c.vis)).filter Method.isSetter)
          = c.setters.map (Setter.method c.vis) := by
        refine List.filter_eq_self.mpr ?_
        intro m hm
        obtain ⟨t, ht, rfl⟩ := List.mem_map.mp hm
        obtain ⟨key, hkey⟩ := h t ht
        exact Method.isSetter_of_name hkey
      show ((c.method :: c.setters.map (Setter.method c.vis)).filter Method.isSetter).map
        Method.unscoped = _
      rw [List.filter_cons_of_neg hfirst, hrest, List.map_map]
      rfl
  | builder b =>
      have hentry : ¬ b.entryMethod.isSetter = true := not_isSetter (by simp [Builder.entryMethod])
      exact congrArg (List.map _) (List.filter_cons_of_neg hentry)
  | conversion c =>
      have hentry : ¬ c.fromRaw.isSetter = true := not_isSetter (by simp [Conversion.fromRaw])
      exact congrArg (List.map _) (List.filter_cons_of_neg hentry)
  | _ => rfl

/-- A setter of a run is named for a property. -/
theorem Item.name_of_mem_setters {s : StructDecl} {ps : List Property} {steps : List MacroStep}
    (hread : (Item.struct s).properties = .ok ps)
    (hkeys : ((Property.typed ps).map Property.key).Nodup)
    (hargs : ∀ a ∈ s.attrs, a.argumentsRead = true) (hrun : (Item.struct s).steps = .ok steps)
    {g : Generated} (hg : g ∈ (Item.struct s).generated) {t : Setter} (ht : t ∈ g.setters) :
    ∃ key, t.name.text = "with_" ++ key := by
  have hmem : t ∈ (Item.struct s).setters := List.mem_flatMap.mpr ⟨g, hg, ht⟩
  rw [Item.setters_eq_emitted hread hargs hrun] at hmem
  obtain ⟨p, -, -, hsetter⟩ := (mem_emitted_iff hkeys _ t).mp hmem
  exact ⟨p.key, (Property.setter?_spec hsetter).1⟩

/-- So the setters among the functions of a structure, in the program of a run, are those of the
    setters of the run. -/
theorem Item.filter_methods_code {s : StructDecl} {ps : List Property} {steps : List MacroStep}
    (hread : (Item.struct s).properties = .ok ps)
    (hkeys : ((Property.typed ps).map Property.key).Nodup)
    (hargs : ∀ a ∈ s.attrs, a.argumentsRead = true)
    (hrun : (Item.struct s).steps = .ok steps) :
    (((Item.struct s).code.methods s.name.text).filter Method.isSetter).map Method.unscoped
      = (Item.struct s).setters.map (Setter.method []) := by
  rw [Item.methods_code hread, List.filter_flatMap, List.map_flatMap, Item.setters,
    List.map_flatMap]
  refine List.flatMap_congr ?_
  intro g hg
  exact Generated.filter_ownMethods fun t ht =>
    Item.name_of_mem_setters hread hkeys hargs hrun hg ht

/-- **No setter is lost or defined twice.**  In whatever order macros are attached to a structure,
    a constructor and a test factory at most once each: in the program that the whole run emits,
    the functions of the structure that are named as setters are, up to their visibility, those of
    the setters that are owed, each of them once and with the declared type, and their names
    differ. -/
theorem Item.setters_perm_owedSetters (s : StructDecl) (stored : List Property)
    (steps : List MacroStep) (hread : (Item.struct s).storedProperties = .ok stored)
    (hnames : ((s.fields.list.filterMap Field.name).map Ident.text).Nodup)
    (honce : ∀ k : ConstructorKind, s.attrs.countP (·.named k.attached.name) ≤ 1)
    (hargs : ∀ a ∈ s.attrs, a.argumentsRead = true)
    (hrun : (Item.struct s).steps = .ok steps) :
    (Item.struct s).EmitsProgram (Item.struct s).code
      ∧ ((((Item.struct s).code.methods s.name.text).filter Method.isSetter).map
          Method.unscoped).Perm ((s.owedSetters stored).map (Setter.method []))
      ∧ ((((Item.struct s).code.methods s.name.text).filter Method.isSetter).map
          fun m => m.name.text).Nodup
      ∧ (Item.struct s).setters.Perm (s.owedSetters stored)
      ∧ ((Item.struct s).setters.map fun x => x.name.text).Nodup := by
  obtain ⟨ps, hps, rfl⟩ := Item.exists_properties_of_stored hread
  have hkeys := Property.nodup_key_typed hps hnames
  have hfunctions := Item.filter_methods_code hps hkeys hargs hrun
  have hemitted : ((Item.struct s).setters.map fun x => x.name.text).Nodup := by
    rw [Item.setters_eq_emitted hps hargs hrun]
    exact nodup_emitted hkeys honce
  have howed : (Item.struct s).setters.Perm (s.owedSetters (Property.stored ps)) := by
    refine (List.perm_ext_iff_of_nodup (List.Nodup.of_map _ hemitted)
      (List.Nodup.of_map _ (nodup_owedSetters hps hkeys))).mpr ?_
    intro x
    rw [Item.setters_eq_emitted hps hargs hrun, mem_emitted_iff hkeys,
      mem_owedSetters_iff hps hkeys]
  refine ⟨Item.emitsProgram_code hrun, ?_, ?_, howed, hemitted⟩
  · rw [hfunctions]
    exact howed.map _
  · -- the names do not depend on the visibility
    have htexts := congrArg (List.map fun m : Method => m.name.text) hfunctions
    rw [List.map_map, List.map_map] at htexts
    exact htexts.symm ▸ hemitted

/-- The puppy's two macros share its two setters: one of them is left to the
    constructor by the test factory, which runs first and emits the other. -/
theorem Sample.puppy_setters_perm_owedSetters :
    ∃ s stored steps, Sample.puppy.item? = some (.struct s)
      ∧ (Item.struct s).storedProperties = .ok stored
      ∧ ((s.fields.list.filterMap Field.name).map Ident.text).Nodup
      ∧ (∀ k : ConstructorKind, s.attrs.countP (·.named k.attached.name) = 1)
      ∧ (∀ a ∈ s.attrs, a.argumentsRead = true)
      ∧ (Item.struct s).steps = .ok steps
      ∧ (s.owedSetters stored).map (fun x => x.name.text) = ["with_good", "with_lives"]
      ∧ ((((Item.struct s).code.methods s.name.text).filter Method.isSetter).map
          Method.unscoped).Perm ((s.owedSetters stored).map (Setter.method [])) := by
  have hcheck : (Sample.puppy.struct?.any fun s =>
      ((s.fields.list.filterMap Field.name).map Ident.text).Nodup
        && (s.attrs.countP (·.named "auto_init") = 1 && s.attrs.countP (·.named "auto_stub") = 1)
        && s.attrs.all Attribute.argumentsRead
        && (Item.struct s).steps.toOption.isSome
        && ((Item.struct s).storedProperties.toOption.any fun stored =>
          (s.owedSetters stored).map (fun x => x.name.text) = ["with_good", "with_lives"]))
      = true := by
    decide +kernel
  obtain ⟨s, hs, hall⟩ := (Option.any_eq_true _ _).mp hcheck
  simp only [Bool.and_eq_true, decide_eq_true_eq, List.all_eq_true] at hall
  obtain ⟨⟨⟨⟨hnames, hinit, hstub⟩, hargs⟩, hsteps⟩, howed⟩ := hall
  have honce : ∀ k : ConstructorKind, s.attrs.countP (·.named k.attached.name) = 1 := by
    intro k
    cases k with
    | memberwise => exact hinit
    | stub => exact hstub
  obtain ⟨steps, hrun⟩ := Option.isSome_iff_exists.mp hsteps
  obtain ⟨stored, hread, howed⟩ := (Option.any_eq_true _ _).mp howed
  have hrun := eq_ok_of_toOption hrun
  have hread := eq_ok_of_toOption hread
  exact ⟨s, stored, steps, Sample.item?_of_struct? hs, hread, hnames, honce, hargs, hrun,
    decide_eq_true_iff.mp howed,
    (Item.setters_perm_owedSetters s stored steps hread hnames
      (fun k => Nat.le_of_eq (honce k)) hargs hrun).2.1⟩

end DeclMacros
