import Mathlib.Data.List.Forall2
import Mathlib.Data.List.Nodup
import DeclMacros.Code.Target

/-! # What is read from the markers of a declaration

    Every macro on a structure starts from its properties: one for each field,
    with what the markers on the field say.  The attributes of a field are read
    from the first to the last, and one malformed marker fails the whole.

    This file says what one attribute can do to a property (`withAttr_cases`),
    and what becomes of the properties when some markers are taken away: a
    declaration that could be read can still be read, and its properties agree
    with the former ones in all that the markers that are left speak about
    (`mapM_ofField_without`).  On that rests `expandStruct_eq`, the form that
    the expansion of a macro takes once the properties are known.  A declaration
    can be read exactly when its markers are well formed, and the properties that
    code is generated from are those of its typed fields (`forall₂_typedFields`). -/

set_option autoImplicit false

namespace DeclMacros

/-! ## Lists read with failure -/

section Collect

variable {ε α β γ : Type}

/-- What is still there once the reason of a failure is forgotten was read. -/
theorem eq_ok_of_toOption {r : Except ε α} {x : α} (h : r.toOption = some x) : r = .ok x := by
  cases r with
  | error e => exact nomatch h
  | ok y => rw [Option.some.inj h]

/-- Two steps succeed exactly when the first does and the second does after it. -/
theorem bind_eq_ok_iff {r : Except ε α} {f : α → Except ε β} {y : β} :
    r >>= f = .ok y ↔ ∃ x, r = .ok x ∧ f x = .ok y := by
  cases r with
  | error e => exact ⟨fun h => (nomatch h), fun ⟨_, h, _⟩ => (nomatch h)⟩
  | ok x =>
      constructor
      · intro h
        exact ⟨x, rfl, h⟩
      · rintro ⟨_, hx, h⟩
        cases hx
        exact h

/-- A list is read whole exactly when each of its elements is. -/
theorem mapM_eq_ok_iff (f : α → Except ε β) (xs : List α) (ys : List β) :
    xs.mapM f = .ok ys ↔ List.Forall₂ (fun x y => f x = .ok y) xs ys := by
  induction xs generalizing ys with
  | nil =>
      rw [List.mapM_nil, List.forall₂_nil_left_iff]
      constructor
      · intro h
        exact (Except.ok.inj h).symm
      · rintro rfl
        rfl
  | cons x xs ih =>
      rw [List.mapM_cons, List.forall₂_cons_left_iff]
      constructor
      · intro h
        cases hx : f x with
        | error e => rw [hx] at h; exact nomatch h
        | ok y =>
            cases hxs : xs.mapM f with
            | error e => rw [hx, hxs] at h; exact nomatch h
            | ok rest =>
                rw [hx, hxs] at h
                exact ⟨y, rest, rfl, (ih rest).mp hxs, (Except.ok.inj h).symm⟩
      · rintro ⟨y, rest, hx, hrest, rfl⟩
        rw [hx, (ih rest).mpr hrest]
        rfl

/-- A list can be read exactly when each of its elements can. -/
theorem exists_mapM_eq_ok_iff (f : α → Except ε β) (xs : List α) :
    (∃ ys, xs.mapM f = .ok ys) ↔ ∀ x ∈ xs, ∃ y, f x = .ok y := by
  simp only [mapM_eq_ok_iff]
  induction xs with
  | nil => exact ⟨fun _ _ hx => (nomatch hx), fun _ => ⟨[], .nil⟩⟩
  | cons x xs ih =>
      rw [List.forall_mem_cons, ← ih]
      constructor
      · rintro ⟨_, _ | ⟨hx, hxs⟩⟩
        exact ⟨⟨_, hx⟩, _, hxs⟩
      · rintro ⟨⟨y, hx⟩, ys, hxs⟩
        exact ⟨y :: ys, .cons hx hxs⟩

/-- Functions that agree on related elements keep the same of two related
    lists. -/
theorem filterMap_congr_of_forall₂ {R : α → β → Prop} {f : α → Option γ}
    {g : β → Option γ} (hfg : ∀ x y, R x y → f x = g y) {xs : List α}
    {ys : List β} (h : List.Forall₂ R xs ys) :
    xs.filterMap f = ys.filterMap g := by
  induction h with
  | nil => rfl
  | cons hxy _ ih => rw [List.filterMap_cons, List.filterMap_cons, hfg _ _ hxy, ih]

/-- Functions that agree on related elements collect the same from two related
    lists. -/
theorem flatMap_congr_of_forall₂ {R : α → β → Prop} {f : α → List γ} {g : β → List γ}
    (hfg : ∀ x y, R x y → f x = g y) {xs : List α} {ys : List β}
    (h : List.Forall₂ R xs ys) : xs.flatMap f = ys.flatMap g := by
  induction h with
  | nil => rfl
  | cons hxy _ ih => rw [List.flatMap_cons, List.flatMap_cons, hfg _ _ hxy, ih]

/-- What is in the second of two related lists is related to something in the
    first. -/
theorem exists_mem_of_forall₂ {R : α → β → Prop} {xs : List α} {ys : List β}
    (h : List.Forall₂ R xs ys) {y : β} (hy : y ∈ ys) : ∃ x ∈ xs, R x y := by
  induction h with
  | nil => exact nomatch hy
  | @cons x z xs ys hxz _ ih =>
      rcases List.mem_cons.mp hy with rfl | hlater
      · exact ⟨x, List.mem_cons_self .., hxz⟩
      · obtain ⟨x', hx', hrel⟩ := ih hlater
        exact ⟨x', List.mem_cons_of_mem x hx', hrel⟩

/-- Lists that are related to a third one are related to each other through it. -/
theorem forall₂_trans {R : α → β → Prop} {S : β → γ → Prop} {xs : List α}
    {ys : List β} {zs : List γ} (h : List.Forall₂ R xs ys) (h' : List.Forall₂ S ys zs) :
    List.Forall₂ (fun x z => ∃ y, R x y ∧ S y z) xs zs := by
  induction h generalizing zs with
  | nil =>
      cases h'
      exact .nil
  | @cons x y _ _ hxy _ ih =>
      cases h' with
      | cons hyz hrest => exact .cons ⟨y, hxy, hyz⟩ (ih hrest)

/-- Of two related lists, the second elements of the pairs are in the second. -/
theorem forall₂_and_mem {R : α → β → Prop} {xs : List α} {ys : List β}
    (h : List.Forall₂ R xs ys) : List.Forall₂ (fun x y => R x y ∧ y ∈ ys) xs ys := by
  induction h with
  | nil => exact .nil
  | cons hxy _ ih =>
      refine .cons ⟨hxy, List.mem_cons_self ..⟩ (ih.imp ?_)
      rintro x y ⟨hrel, hmem⟩
      exact ⟨hrel, List.mem_cons_of_mem _ hmem⟩

end Collect

/-! ## Names of attributes -/

/-- An attribute goes by one name only. -/
theorem Attribute.named_unique {a : Attribute} {x y : String}
    (hx : a.named x = true) (hy : a.named y = true) : x = y := by
  unfold Attribute.named at hx hy
  cases hlast : a.path.last? with
  | none => rw [hlast] at hx; exact Bool.noConfusion hx
  | some i =>
      rw [hlast] at hx hy
      have hx' : i.display = x := by simpa [Ident.is] using hx
      have hy' : i.display = y := by simpa [Ident.is] using hy
      exact hx'.symm.trans hy'

/-- Different markers have different names. -/
theorem Marker.name_injective {m k : Marker} (h : m.name = k.name) : m = k := by
  revert h
  cases m <;> cases k <;> decide

/-- An attribute is one marker only. -/
theorem Attribute.isMarker_unique {a : Attribute} {m k : Marker}
    (hm : a.isMarker m = true) (hk : a.isMarker k = true) : m = k :=
  Marker.name_injective (Attribute.named_unique hm hk)

/-! ## One attribute -/

/-- The attributes without some kinds of markers. -/
def Attribute.without (gone : Marker → Bool) (attrs : List Attribute) : List Attribute :=
  attrs.filter fun a => !Marker.all.any fun m => gone m && a.named m.name

/-- An attribute goes exactly when it is a marker of one of those kinds. -/
theorem Attribute.any_gone_iff (gone : Marker → Bool) (a : Attribute) :
    (Marker.all.any fun m => gone m && a.named m.name) = true
      ↔ ∃ m, gone m = true ∧ a.isMarker m = true := by
  rw [List.any_eq_true]
  constructor
  · rintro ⟨m, -, hm⟩
    rw [Bool.and_eq_true] at hm
    exact ⟨m, hm.1, hm.2⟩
  · rintro ⟨m, hgone, hm⟩
    have hmem : m ∈ Marker.all := by cases m <;> decide
    exact ⟨m, hmem, by rw [hgone, Bool.true_and]; exact hm⟩

/-- A marker of a kind that stays is among what is left. -/
theorem Attribute.any_isMarker_without {gone : Marker → Bool} {m : Marker}
    (hm : gone m = false) (attrs : List Attribute) :
    ((Attribute.without gone attrs).any (·.isMarker m)) = attrs.any (·.isMarker m) := by
  unfold Attribute.without
  induction attrs with
  | nil => rfl
  | cons a rest ih =>
      rw [List.filter_cons, List.any_cons]
      cases hgone : Marker.all.any fun k => gone k && a.named k.name with
      | false =>
          rw [Bool.not_false, if_pos rfl, List.any_cons, ih]
      | true =>
          obtain ⟨k, hk, hmarker⟩ := (Attribute.any_gone_iff gone a).mp hgone
          have hother : a.isMarker m = false := by
            cases hv : a.isMarker m with
            | false => rfl
            | true =>
                rw [Attribute.isMarker_unique hv hmarker, hk] at hm
                exact Bool.noConfusion hm
          rw [Bool.not_true, if_neg (by simp), ih, hother, Bool.false_or]

namespace Property

/-- What one attribute can do to a property: a value or a stub marker is
    recorded, and everything else that is well formed leaves it as it is. -/
theorem withAttr_cases {p q : Property} {a : Attribute} (h : p.withAttr a = .ok q) :
    (a.isMarker .default = true ∧ ∃ e, a.exprArgument = .ok e
      ∧ q = { p with initial := some e }) ∨
    (a.isMarker .stub = true ∧ ∃ m, a.stubArgument = .ok m
      ∧ q = { p with stub := some m }) ∨
    (a.isMarker .default = false ∧ a.isMarker .stub = false
      ∧ (a.isMarker .parseable && !a.arguments.isEmpty) = false ∧ q = p) := by
  unfold withAttr at h
  cases hdefault : a.isMarker .default with
  | true =>
      rw [hdefault, if_pos rfl] at h
      cases harg : a.exprArgument with
      | error e => rw [harg] at h; exact nomatch h
      | ok e =>
          rw [harg] at h
          exact .inl ⟨rfl, e, rfl, (Except.ok.inj h).symm⟩
  | false =>
      rw [hdefault, if_neg (by simp)] at h
      cases hstub : a.isMarker .stub with
      | true =>
          rw [hstub, if_pos rfl] at h
          cases harg : a.stubArgument with
          | error e => rw [harg] at h; exact nomatch h
          | ok m =>
              rw [harg] at h
              exact .inr (.inl ⟨rfl, m, rfl, (Except.ok.inj h).symm⟩)
      | false =>
          rw [hstub, if_neg (by simp)] at h
          cases hparse : a.isMarker .parseable && !a.arguments.isEmpty with
          | true => rw [hparse, if_pos rfl] at h; exact nomatch h
          | false =>
              rw [hparse, if_neg (by simp)] at h
              exact .inr (.inr ⟨rfl, rfl, rfl, (Except.ok.inj h).symm⟩)

/-- A value marker that can be read is recorded. -/
theorem withAttr_default {a : Attribute} {e : Expr} (p : Property)
    (hm : a.isMarker .default = true) (he : a.exprArgument = .ok e) :
    p.withAttr a = .ok { p with initial := some e } := by
  unfold withAttr
  rw [if_pos hm, he]
  rfl

/-- A stub marker that can be read is recorded. -/
theorem withAttr_stub {a : Attribute} {m : StubMarker} (p : Property)
    (hm : a.isMarker .stub = true) (he : a.stubArgument = .ok m) :
    p.withAttr a = .ok { p with stub := some m } := by
  have hdefault : a.isMarker .default = false := by
    cases hv : a.isMarker .default with
    | false => rfl
    | true => exact nomatch Attribute.isMarker_unique hv hm
  unfold withAttr
  rw [if_neg (by simp [hdefault]), if_pos hm, he]
  rfl

/-- Other attributes leave the property as it is. -/
theorem withAttr_other {a : Attribute} (p : Property) (hdefault : a.isMarker .default = false)
    (hstub : a.isMarker .stub = false)
    (hparse : (a.isMarker .parseable && !a.arguments.isEmpty) = false) :
    p.withAttr a = .ok p := by
  unfold withAttr
  rw [if_neg (by simp [hdefault]), if_neg (by simp [hstub]), if_neg (by simp [hparse])]
  rfl

/-- Two properties agree in all that markers outside some kinds speak about;
    their places and their attributes may differ. -/
structure Agree (gone : Marker → Bool) (p q : Property) : Prop where
  name : q.name = p.name
  ty : q.ty = p.ty
  isStatic : q.isStatic = p.isStatic
  initial : gone .default = false → q.initial = p.initial
  stub : gone .stub = false → q.stub = p.stub
  recursiveParse : gone .parseable = false → q.recursiveParse = p.recursiveParse

/-! ## All attributes of a field -/

/-- The parts of a property that its markers leave alone. -/
theorem foldlM_withAttr_fixed {attrs : List Attribute} {p q : Property}
    (h : attrs.foldlM withAttr p = .ok q) :
    q.name = p.name ∧ q.ty = p.ty ∧ q.attrs = p.attrs ∧ q.span = p.span
      ∧ q.isStatic = p.isStatic := by
  induction attrs generalizing p with
  | nil =>
      rw [List.foldlM_nil] at h
      rw [← Except.ok.inj h]
      exact ⟨rfl, rfl, rfl, rfl, rfl⟩
  | cons a rest ih =>
      rw [List.foldlM_cons] at h
      cases hstep : p.withAttr a with
      | error e => rw [hstep] at h; exact nomatch h
      | ok next =>
          rw [hstep] at h
          have hrest := ih h
          rcases withAttr_cases hstep with ⟨-, e, -, rfl⟩ | ⟨-, m, -, rfl⟩ | ⟨-, -, -, rfl⟩
          · exact hrest
          · exact hrest
          · exact hrest

/-- Reading goes on as before when markers of some kinds are taken away, and
    ends with the same data for all other kinds. -/
theorem foldlM_withAttr_without (gone : Marker → Bool) {attrs : List Attribute}
    {p q : Property} (p' : Property) (h : attrs.foldlM withAttr p = .ok q)
    (hinitial : gone .default = false → p'.initial = p.initial)
    (hstub : gone .stub = false → p'.stub = p.stub) :
    ∃ q', (Attribute.without gone attrs).foldlM withAttr p' = .ok q'
      ∧ (gone .default = false → q'.initial = q.initial)
      ∧ (gone .stub = false → q'.stub = q.stub) := by
  unfold Attribute.without
  induction attrs generalizing p p' with
  | nil =>
      rw [List.foldlM_nil] at h
      rw [← Except.ok.inj h]
      exact ⟨p', rfl, hinitial, hstub⟩
  | cons a rest ih =>
      rw [List.foldlM_cons] at h
      cases hstep : p.withAttr a with
      | error e => rw [hstep] at h; exact nomatch h
      | ok next =>
          rw [hstep] at h
          rw [List.filter_cons]
          cases hgone : Marker.all.any fun m => gone m && a.named m.name with
          | false =>
              -- the attribute stays: it says the same to both properties
              rw [Bool.not_false, if_pos rfl, List.foldlM_cons]
              rcases withAttr_cases hstep with
                ⟨hm, e, he, rfl⟩ | ⟨hm, m, hm', rfl⟩ | ⟨h1, h2, h3, rfl⟩
              · rw [withAttr_default p' hm he]
                exact ih _ h (fun _ => rfl) hstub
              · rw [withAttr_stub p' hm hm']
                exact ih _ h hinitial (fun _ => rfl)
              · rw [withAttr_other p' h1 h2 h3]
                exact ih p' h hinitial hstub
          | true =>
              -- the attribute goes: only data of its own kind may change by it
              obtain ⟨k, hk, hmarker⟩ := (Attribute.any_gone_iff gone a).mp hgone
              rw [Bool.not_true, if_neg (by simp)]
              rcases withAttr_cases hstep with ⟨hm, e, -, rfl⟩ | ⟨hm, m, -, rfl⟩ | ⟨-, -, -, rfl⟩
              · rw [Attribute.isMarker_unique hmarker hm] at hk
                exact ih p' h (fun hstays => absurd hk (by simp [hstays])) hstub
              · rw [Attribute.isMarker_unique hmarker hm] at hk
                exact ih p' h hinitial (fun hstays => absurd hk (by simp [hstays]))
              · exact ih p' h hinitial hstub

/-- A field that is read without some kinds of markers gives a property that
    agrees with the one of the whole field. -/
theorem ofField_without (gone : Marker → Bool) {f : Field} {p : Property}
    (h : ofField f = .ok p) :
    ∃ q, ofField { f with attrs := Attribute.without gone f.attrs } = .ok q
      ∧ Agree gone p q := by
  unfold ofField at h ⊢
  obtain ⟨hname, hty, hattrs, -, hstatic⟩ := foldlM_withAttr_fixed h
  obtain ⟨q, hq, hinitial, hstub⟩ := foldlM_withAttr_without gone
    { name := f.name, ty := f.ty.explicit?, attrs := Attribute.without gone f.attrs,
      span := Field.span { f with attrs := Attribute.without gone f.attrs } }
    h (fun _ => rfl) (fun _ => rfl)
  obtain ⟨hname', hty', hattrs', -, hstatic'⟩ := foldlM_withAttr_fixed hq
  refine ⟨q, hq, hname'.trans hname.symm, hty'.trans hty.symm, hstatic'.trans hstatic.symm,
    hinitial, hstub, ?_⟩
  intro hstays
  unfold recursiveParse
  rw [hattrs', hattrs]
  exact Attribute.any_isMarker_without hstays f.attrs

/-- A declaration that could be read can be read without some kinds of markers
    on its fields, and its properties agree with the former ones. -/
theorem mapM_ofField_without (gone : Marker → Bool) {fields : List Field} {ps : List Property}
    (h : fields.mapM ofField = .ok ps) :
    ∃ qs, (fields.map fun f => { f with attrs := Attribute.without gone f.attrs }).mapM ofField
        = .ok qs
      ∧ List.Forall₂ (Agree gone) ps qs := by
  have hread := (mapM_eq_ok_iff ofField fields ps).mp h
  clear h
  induction hread with
  | nil => exact ⟨[], rfl, .nil⟩
  | @cons f p fields ps hf _ ih =>
      obtain ⟨q, hq, hagree⟩ := ofField_without gone hf
      obtain ⟨qs, hqs, hrest⟩ := ih
      refine ⟨q :: qs, ?_, .cons hagree hrest⟩
      rw [List.map_cons, List.mapM_cons, hq, hqs]
      rfl

/-! ## What a macro on a structure starts from -/

/-- The properties that hold data: stored, not static, and named. -/
def stored (ps : List Property) : List Property :=
  ps.filter fun p => p.isStored && !p.isStatic && p.name.isSome

/-- The properties that hold data and have an explicit type. -/
def typed (ps : List Property) : List Property := (stored ps).filter fun p => p.ty.isSome

/-- The names of the fields that carry no data. -/
def phantoms (ps : List Property) : List Ident :=
  (ps.filter fun p => p.isComputed && p.name.isSome).filterMap Property.name

end Property

/-- What a macro on a structure generates from, given the properties. -/
def StructTarget.ofProperties (a : Attachment) (s : StructDecl) (ps : List Property) :
    StructTarget :=
  { item := .struct s, target := ⟨s.name, s.generics⟩,
    vis := (Item.struct s).resolveAccess a.access, properties := Property.typed ps,
    phantoms := Property.phantoms ps }

/-- The stored properties of a declaration that can be read. -/
theorem Item.storedProperties_eq {item : Item} {ps : List Property}
    (h : item.properties = .ok ps) : item.storedProperties = .ok (Property.stored ps) := by
  unfold Item.storedProperties
  rw [h]
  rfl

/-- A declaration whose stored properties can be read can be read whole. -/
theorem Item.exists_properties_of_stored {item : Item} {stored : List Property}
    (h : item.storedProperties = .ok stored) :
    ∃ ps, item.properties = .ok ps ∧ stored = Property.stored ps := by
  cases hread : item.properties with
  | error e =>
      rw [Item.storedProperties, hread] at h
      exact nomatch h
  | ok ps =>
      rw [Item.storedProperties_eq hread] at h
      exact ⟨ps, rfl, (Except.ok.inj h).symm⟩

/-- The expansion of a macro on a structure that can be read: the properties
    without a type are reported, and code is generated from the others, if there
    are any. -/
theorem expandStruct_eq {α : Type} (m : AttachedMacro) (a : Attachment) {s : StructDecl}
    {ps : List Property} (h : (Item.struct s).properties = .ok ps)
    (generate : StructTarget → Except Crash α) :
    expandStruct m a (.struct s) generate
      = if (Property.typed ps).isEmpty then
          .ok { diagnostics := (requireTypes m (Property.stored ps)).2 }
        else
          (generate (.ofProperties a s ps)).map fun g =>
            { items := [g], diagnostics := (requireTypes m (Property.stored ps)).2 } := by
  have hcomputed : (Item.struct s).computedProperties
      = .ok (ps.filter fun p => p.isComputed && p.name.isSome) := by
    unfold Item.computedProperties
    rw [h]
    rfl
  unfold expandStruct
  simp only [Item.storedProperties_eq h, hcomputed, Except.reported]
  rfl

/-- What a macro generates for a structure that can be read is generated from its
    properties, and what it reports are the properties without a type. -/
theorem of_mem_expandStruct {α : Type} {m : AttachedMacro} {a : Attachment} {s : StructDecl}
    {ps : List Property} (hread : (Item.struct s).properties = .ok ps)
    {generate : StructTarget → Except Crash α} {e : Expansion α} {g : α}
    (h : expandStruct m a (.struct s) generate = .ok e) (hg : g ∈ e.items) :
    generate (.ofProperties a s ps) = .ok g
      ∧ e.diagnostics = (requireTypes m (Property.stored ps)).2 := by
  rw [expandStruct_eq m a hread] at h
  cases hempty : (Property.typed ps).isEmpty with
  | true =>
      rw [hempty, if_pos rfl] at h
      rw [← Except.ok.inj h] at hg
      exact nomatch hg
  | false =>
      rw [hempty, if_neg (by simp)] at h
      cases hgenerate : generate (.ofProperties a s ps) with
      | error c => rw [hgenerate] at h; exact nomatch h
      | ok g' =>
          rw [hgenerate] at h
          rw [← Except.ok.inj h] at hg ⊢
          exact ⟨congrArg Except.ok (List.mem_singleton.mp hg).symm, rfl⟩

/-- Where no type is missing, all that is stored is typed. -/
theorem Property.typed_eq_stored {m : AttachedMacro} {ps : List Property}
    (h : (requireTypes m (Property.stored ps)).2 = []) :
    Property.typed ps = Property.stored ps := by
  refine List.filter_eq_self.mpr ?_
  intro p hp
  have huntyped := List.filter_eq_nil_iff.mp (List.map_eq_nil_iff.mp h) p hp
  rw [← Option.not_isNone, Bool.not_eq_true', Bool.eq_false_iff]
  exact huntyped

/-! ## Names of properties -/

/-- What a field has of itself, its property has too. -/
theorem Property.ofField_fixed {f : Field} {p : Property} (h : Property.ofField f = .ok p) :
    p.name = f.name ∧ p.ty = f.ty.explicit? ∧ p.isStatic = false := by
  obtain ⟨hname, hty, -, -, hstatic⟩ := Property.foldlM_withAttr_fixed h
  exact ⟨hname, hty, hstatic⟩

/-- The type of a property is that of its field. -/
theorem Property.ty_eq_of_ofField {f : Field} {p : Property} (h : Property.ofField f = .ok p)
    {ty : Ty} (hty : p.ty = some ty) : f.ty = ty := by
  obtain ⟨-, hexplicit, -⟩ := Property.ofField_fixed h
  rw [hty, Ty.explicit?] at hexplicit
  cases hinfer : f.ty.isInfer with
  | true => rw [hinfer] at hexplicit; cases hexplicit
  | false => rw [hinfer] at hexplicit; exact (Option.some.inj hexplicit).symm

/-- The fields of a structure and their properties, one by one. -/
theorem Item.forall₂_properties {s : StructDecl} {ps : List Property}
    (h : (Item.struct s).properties = .ok ps) :
    List.Forall₂ (fun f p => Property.ofField f = .ok p) s.fields.list ps :=
  (mapM_eq_ok_iff Property.ofField s.fields.list ps).mp h

/-- The properties bear the names of the fields. -/
theorem Item.filterMap_name_properties {s : StructDecl} {ps : List Property}
    (h : (Item.struct s).properties = .ok ps) :
    ps.filterMap Property.name = s.fields.list.filterMap Field.name := by
  symm
  refine filterMap_congr_of_forall₂ ?_ (Item.forall₂_properties h)
  intro f p hfp
  exact (Property.ofField_fixed hfp).1.symm

namespace Property

/-- The text of a property's name. -/
def key (p : Property) : String := (p.name.map Ident.text).getD ""

/-- A typed property has a name and a type. -/
theorem exists_of_mem_typed {ps : List Property} {p : Property} (h : p ∈ typed ps) :
    ∃ name ty, p.name = some name ∧ p.ty = some ty := by
  obtain ⟨hstored, hty⟩ := List.mem_filter.mp h
  obtain ⟨-, hnamed⟩ := List.mem_filter.mp hstored
  rw [Bool.and_eq_true] at hnamed
  obtain ⟨name, hname⟩ := Option.isSome_iff_exists.mp hnamed.2
  obtain ⟨ty, hty⟩ := Option.isSome_iff_exists.mp hty
  exact ⟨name, ty, hname, hty⟩

/-- A text that names no field is not the key of a typed property. -/
theorem key_ne_of_mem_typed {s : StructDecl} {ps : List Property}
    (hread : (Item.struct s).properties = .ok ps) {text : String}
    (htext : ∀ name ∈ s.fields.list.filterMap Field.name, name.text ≠ text) :
    ∀ p ∈ typed ps, p.key ≠ text := by
  intro p hp
  obtain ⟨name, -, hname, -⟩ := exists_of_mem_typed hp
  have hmem : p ∈ ps := List.mem_of_mem_filter (List.mem_of_mem_filter hp)
  rw [key, hname]
  refine htext name ?_
  rw [← Item.filterMap_name_properties hread]
  exact List.mem_filterMap.mpr ⟨p, hmem, hname⟩

/-- The keys of named properties are the texts of their names. -/
theorem map_key_of_named {ps : List Property} (h : ∀ p ∈ ps, p.name.isSome = true) :
    ps.map key = (ps.filterMap Property.name).map Ident.text := by
  induction ps with
  | nil => rfl
  | cons p rest ih =>
      obtain ⟨name, hname⟩ := Option.isSome_iff_exists.mp (h p (List.mem_cons_self ..))
      rw [List.map_cons, List.filterMap_cons, hname, ih (fun q hq => h q (List.mem_cons_of_mem p hq))]
      show _ :: _ = _ :: _
      unfold key
      rw [hname]
      rfl

/-- Fields with different names have properties with different keys. -/
theorem nodup_key_typed {s : StructDecl} {ps : List Property}
    (hread : (Item.struct s).properties = .ok ps)
    (hnames : ((s.fields.list.filterMap Field.name).map Ident.text).Nodup) :
    ((typed ps).map key).Nodup := by
  rw [← Item.filterMap_name_properties hread] at hnames
  have hnamed : ∀ p ∈ typed ps, p.name.isSome = true := by
    intro p hp
    obtain ⟨name, -, hname, -⟩ := exists_of_mem_typed hp
    rw [hname]
    rfl
  have hsub : (typed ps).Sublist ps := List.filter_sublist.trans List.filter_sublist
  rw [map_key_of_named hnamed]
  exact ((hsub.filterMap Property.name).map Ident.text).nodup hnames

/-- A property is known by its key among properties with different keys. -/
theorem eq_of_key_eq {ps : List Property} (h : (ps.map key).Nodup) {p q : Property} (hp : p ∈ ps)
    (hq : q ∈ ps) (hkey : p.key = q.key) : p = q :=
  List.inj_on_of_nodup_map h hp hq hkey

/-- Among fields with different names, one that carries no data is not named as
    one that does. -/
theorem key_ne_of_mem_phantoms {s : StructDecl} {ps : List Property}
    (hread : (Item.struct s).properties = .ok ps)
    (hnames : ((s.fields.list.filterMap Field.name).map Ident.text).Nodup) {p : Property}
    (hp : p ∈ typed ps) {name : Ident} (hname : name ∈ phantoms ps) : name.text ≠ p.key := by
  rw [← Item.filterMap_name_properties hread] at hnames
  have hkeys : ((ps.filter fun q => q.name.isSome).map key).Nodup := by
    rw [map_key_of_named fun q hq => (List.mem_filter.mp hq).2]
    exact ((List.filter_sublist.filterMap Property.name).map Ident.text).nodup hnames
  obtain ⟨q, hq, hqname⟩ := List.mem_filterMap.mp hname
  obtain ⟨hq, hcomputed⟩ := List.mem_filter.mp hq
  rw [Bool.and_eq_true] at hcomputed
  obtain ⟨hp', hstored⟩ := List.mem_filter.mp (List.mem_of_mem_filter hp)
  rw [Bool.and_eq_true, Bool.and_eq_true] at hstored
  intro heq
  have hkey : q.key = p.key := by
    rw [key, hqname]
    exact heq
  have hsame : q = p := eq_of_key_eq hkeys (List.mem_filter.mpr ⟨hq, hcomputed.2⟩)
    (List.mem_filter.mpr ⟨hp', hstored.2⟩) hkey
  have hnot := hstored.1.1
  rw [isStored, ← hsame, hcomputed.1] at hnot
  exact nomatch hnot

end Property

/-! ## Well formed markers -/

/-- The attribute is no marker, or its arguments are those of the marker that it
    is. -/
def Attribute.isWellFormed (a : Attribute) : Bool :=
  (!a.isMarker .default || a.exprArgument.isOk)
    && (!a.isMarker .stub || a.stubArgument.isOk)
    && (!a.isMarker .parseable || a.arguments.isEmpty)

/-- A well formed attribute never stops the reading of a field. -/
theorem Property.exists_withAttr {a : Attribute} (h : a.isWellFormed = true) (p : Property) :
    ∃ q, p.withAttr a = .ok q := by
  simp only [Attribute.isWellFormed, Bool.and_eq_true] at h
  obtain ⟨⟨hvalue, hstubValue⟩, hbare⟩ := h
  by_cases hdefault : a.isMarker .default = true
  · rw [hdefault] at hvalue
    cases hread : a.exprArgument with
    | ok e => exact ⟨_, Property.withAttr_default p hdefault hread⟩
    | error e => rw [hread] at hvalue; cases hvalue
  by_cases hstub : a.isMarker .stub = true
  · rw [hstub] at hstubValue
    cases hread : a.stubArgument with
    | ok m => exact ⟨_, Property.withAttr_stub p hstub hread⟩
    | error e => rw [hread] at hstubValue; cases hstubValue
  refine ⟨p, Property.withAttr_other p (by simpa using hdefault) (by simpa using hstub) ?_⟩
  cases hparseable : a.isMarker .parseable with
  | false => rfl
  | true =>
      rw [hparseable] at hbare
      simpa using hbare

/-- So it never stops that of many. -/
theorem Property.exists_foldlM_withAttr {attrs : List Attribute}
    (h : ∀ a ∈ attrs, a.isWellFormed = true) (p : Property) :
    ∃ q, attrs.foldlM Property.withAttr p = .ok q := by
  induction attrs generalizing p with
  | nil => exact ⟨p, rfl⟩
  | cons a attrs ih =>
      obtain ⟨q, hq⟩ := Property.exists_withAttr (h a (List.mem_cons_self ..)) p
      rw [List.foldlM_cons, hq]
      exact ih (fun b hb => h b (List.mem_cons_of_mem a hb)) q

/-- An attribute is accepted only if it is well formed. -/
theorem Property.isWellFormed_of_withAttr {a : Attribute} {p q : Property}
    (h : p.withAttr a = .ok q) : a.isWellFormed = true := by
  unfold Attribute.isWellFormed
  -- the attribute is one marker at most, so two of the three parts are about others
  have hunique (m k : Marker) (hm : a.isMarker m = true) (hmk : m ≠ k) : a.isMarker k = false :=
    Bool.eq_false_iff.mpr fun hk => hmk (Attribute.isMarker_unique hm hk)
  rcases Property.withAttr_cases h with
    ⟨hm, e, he, -⟩ | ⟨hm, e, he, -⟩ | ⟨hdefault, hstub, hparse, -⟩
  · rw [hunique _ .stub hm (by decide), hunique _ .parseable hm (by decide), he]
    simp [Except.isOk, Except.toBool]
  · rw [hunique _ .default hm (by decide), hunique _ .parseable hm (by decide), he]
    simp [Except.isOk, Except.toBool]
  · rw [hdefault, hstub]
    simpa [imp_iff_not_or] using hparse

/-- A field has a property exactly when its markers are well formed. -/
theorem Property.exists_ofField_iff (f : Field) :
    (∃ p, Property.ofField f = .ok p) ↔ ∀ a ∈ f.attrs, a.isWellFormed = true := by
  constructor
  · rintro ⟨p, hp⟩
    unfold Property.ofField at hp
    generalize Property.mk f.name f.ty.explicit? f.attrs f.span false none none = start at hp
    generalize f.attrs = attrs at hp ⊢
    induction attrs generalizing start with
    | nil => exact List.forall_mem_nil _
    | cons a attrs ih =>
        rw [List.foldlM_cons, bind_eq_ok_iff] at hp
        obtain ⟨q, hq, hrest⟩ := hp
        exact List.forall_mem_cons.mpr ⟨Property.isWellFormed_of_withAttr hq, ih q hrest⟩
  · intro h
    exact Property.exists_foldlM_withAttr h _

/-- All markers on the fields of a structure are well formed. -/
def StructDecl.HasWellFormedMarkers (s : StructDecl) : Prop :=
  ∀ f ∈ s.fields.list, ∀ a ∈ f.attrs, a.isWellFormed = true

instance StructDecl.decidableHasWellFormedMarkers (s : StructDecl) :
    Decidable s.HasWellFormedMarkers :=
  inferInstanceAs (Decidable (∀ f ∈ s.fields.list, ∀ a ∈ f.attrs, a.isWellFormed = true))

/-- These are the structures that can be read. -/
theorem StructDecl.exists_properties_iff (s : StructDecl) :
    (∃ ps, (Item.struct s).properties = .ok ps) ↔ s.HasWellFormedMarkers := by
  unfold StructDecl.HasWellFormedMarkers
  simp only [← Property.exists_ofField_iff]
  exact exists_mapM_eq_ok_iff _ _

/-! ## Fields that hold typed data -/

/-- Code is generated from the field: it has a name, a type that is written out, and data. -/
def Field.isTyped (f : Field) : Bool := f.name.isSome && !f.ty.isInfer && !f.ty.isPhantom

/-- The fields of a structure that code is generated from. -/
def StructDecl.typedFields (s : StructDecl) : List Field := s.fields.list.filter Field.isTyped

/-- The property of a field counts by the name and the type of the field. -/
theorem Property.isTyped_eq {f : Field} {p : Property} (h : Property.ofField f = .ok p) :
    (p.ty.isSome && (p.isStored && !p.isStatic && p.name.isSome)) = f.isTyped := by
  obtain ⟨hname, hty, hstatic⟩ := Property.ofField_fixed h
  rw [Property.isStored, Property.isComputed, hname, hty, hstatic, Ty.explicit?, Field.isTyped]
  cases f.ty.isInfer with
  | true => simp
  | false => simp [Bool.and_comm]

/-- These fields and the typed properties, one by one. -/
theorem StructDecl.forall₂_typedFields {s : StructDecl} {ps : List Property}
    (hread : (Item.struct s).properties = .ok ps) :
    List.Forall₂ (fun f p => Property.ofField f = .ok p) s.typedFields (Property.typed ps) := by
  unfold StructDecl.typedFields Property.typed Property.stored
  rw [List.filter_filter]
  refine List.rel_filter ?_ (Item.forall₂_properties hread)
  intro f p hfp
  show f.isTyped = true ↔ _ = true
  rw [Property.isTyped_eq hfp]

/-- The methods of a trait are members of it. -/
theorem TraitDecl.mem_items_of_mem_methods {t : TraitDecl} {m : TraitMethod}
    (h : m ∈ t.methods) : TraitItem.method m ∈ t.items := by
  obtain ⟨item, hitem, heq⟩ := List.mem_filterMap.mp h
  cases item with
  | method m' => rwa [← Option.some.inj heq]
  | _ => exact nomatch heq

end DeclMacros
