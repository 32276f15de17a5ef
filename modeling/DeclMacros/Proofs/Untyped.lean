import DeclMacros.Proofs.Crashes

/-! # Fields without a type, and malformed markers

    A macro on a structure has no code for a field whose type is left to inference: it
    reports the field and goes on with the others.  A malformed marker stops it at once.

    The route: the four macros on structures have one form, and what they generate
    depends on the fields only through the typed properties and the fields without data
    (`generate_congr`).  A field without a type is in neither, so without these fields
    the properties that count are the same (`Property.typed_filter`,
    `Property.phantoms_filter`), and the reports are those of the fields that are gone
    (`StructDecl.reports_eq`).

    A marker that is not well formed fails in one way (`Attribute.exists_fails`), and
    reading stops at the first that does: within a field (`foldlM_withAttr_of_find?`), and
    so within a structure (`mapM_ofField_of_find?`). -/

set_option autoImplicit false

namespace DeclMacros

/-! ## Four macros of one form -/

/-- To generate and then pack what was generated is to generate it packed. -/
theorem expandStruct_map {α β : Type} (m : AttachedMacro) (a : Attachment) (item : Item)
    (generate : StructTarget → Except Crash α) (f : α → β) :
    (do return (← expandStruct m a item generate).map f)
      = expandStruct m a item fun t => (generate t).map f := by
  cases item with
  | struct s =>
      cases hread : (Item.struct s).properties with
      | error failure =>
          unfold expandStruct Item.storedProperties
          rw [hread]
          cases failure <;> rfl
      | ok ps =>
          rw [expandStruct_eq m a hread, expandStruct_eq m a hread]
          cases (Property.typed ps).isEmpty with
          | true => rfl
          | false =>
              rw [if_neg Bool.false_ne_true, if_neg Bool.false_ne_true]
              cases generate (.ofProperties a s ps) <;> rfl
  | _ => rfl

namespace AttachedMacro

/-- The macros on structures. -/
def onStructs : List AttachedMacro := [.constructor, .stub, .builder, .conversion]

/-- How a macro on structures generates code.  A conversion needs a type to convert
    from. -/
def generator? (m : AttachedMacro) (a : Attachment) :
    Option (StructTarget → Except Crash Generated) :=
  match m with
  | .constructor => some fun t => .ok (.constructor (.ofTarget .memberwise t))
  | .stub => some fun t => .ok (.constructor (.ofTarget .stub t))
  | .builder => some fun t => (Builder.ofTarget t).map .builder
  | .conversion => a.source.map fun source t => .ok (.conversion (.ofTarget source t))
  | .erasure => none
  | .accessors => none

variable {m : AttachedMacro} {a : Attachment} {generate : StructTarget → Except Crash Generated}

theorem exists_generator? (hm : m ∈ onStructs)
    (hsource : m = .conversion → a.source.isSome = true) :
    ∃ generate, m.generator? a = some generate := by
  cases m with
  | conversion =>
      obtain ⟨source, hsource⟩ := Option.isSome_iff_exists.mp (hsource rfl)
      exact ⟨_, congrArg (Option.map _) hsource⟩
  | constructor => exact ⟨_, rfl⟩
  | stub => exact ⟨_, rfl⟩
  | builder => exact ⟨_, rfl⟩
  | erasure => exact absurd hm (by decide)
  | accessors => exact absurd hm (by decide)

/-- The expansion of a macro on structures. -/
theorem expand_struct_eq (h : m.generator? a = some generate) (s : StructDecl) :
    m.expand a (.struct s) = expandStruct m a (.struct s) generate := by
  cases m with
  | conversion =>
      obtain ⟨source, hsource, rfl⟩ := Option.map_eq_some_iff.mp h
      have hexpand : Conversion.expand a (.struct s)
          = expandStruct .conversion a (.struct s) fun t => .ok (.ofTarget source t) := by
        simp only [Conversion.expand, hsource]
      show (Conversion.expand a (.struct s) >>= fun e => pure (e.map Generated.conversion)) = _
      rw [hexpand]
      exact expandStruct_map ..
  | constructor => cases h; exact expandStruct_map ..
  | stub => cases h; exact expandStruct_map ..
  | builder => cases h; exact expandStruct_map ..
  | erasure => cases h
  | accessors => cases h

/-- What is generated depends on the fields through the typed properties and the fields
    without data only. -/
theorem generate_congr (h : m.generator? a = some generate) {s : StructDecl} (fields : Fields)
    {ps qs : List Property} (htyped : Property.typed qs = Property.typed ps)
    (hphantoms : Property.phantoms qs = Property.phantoms ps) :
    generate (.ofProperties a { s with fields := fields } qs)
      = generate (.ofProperties a s ps) := by
  have htarget : StructTarget.ofProperties a { s with fields := fields } qs
      = { StructTarget.ofProperties a s ps with item := .struct { s with fields := fields } } := by
    rw [StructTarget.ofProperties, htyped, hphantoms]
    rfl
  rw [htarget]
  -- the item itself is only asked which macros are still attached
  cases m with
  | conversion =>
      obtain ⟨source, -, rfl⟩ := Option.map_eq_some_iff.mp h
      rfl
  | constructor => cases h; rfl
  | stub => cases h; rfl
  | builder => cases h; rfl
  | erasure => cases h
  | accessors => cases h

end AttachedMacro

/-! ## Fields without a type -/

/-- The field has a name, and its type is left to inference. -/
def Field.isUntyped (f : Field) : Bool := f.name.isSome && f.ty.isInfer

/-- The fields that pass a test. -/
def Fields.filter (test : Field → Bool) : Fields → Fields
  | .named fields span => .named (fields.filter fun f => test f.1) span
  | .tuple fields span => .tuple (fields.filter fun f => test f.1) span
  | .unit => .unit

theorem Fields.list_filter (test : Field → Bool) (fields : Fields) :
    (fields.filter test).list = fields.list.filter test := by
  cases fields with
  | named fields span => exact List.filter_map.symm
  | tuple fields span => exact List.filter_map.symm
  | unit => rfl

/-- The structure without its fields without a type. -/
def StructDecl.withoutUntyped (s : StructDecl) : StructDecl :=
  { s with fields := s.fields.filter fun f => !f.isUntyped }

namespace Property

/-- The property has a name and no type. -/
def isUntyped (p : Property) : Bool := p.name.isSome && p.ty.isNone

/-- Whether a type is missing is seen at the property as at the field. -/
theorem isUntyped_of_ofField {f : Field} {p : Property} (h : ofField f = .ok p) :
    p.isUntyped = f.isUntyped := by
  obtain ⟨hname, hty, -⟩ := ofField_fixed h
  rw [isUntyped, Field.isUntyped, hname, hty, Ty.explicit?]
  cases f.ty.isInfer <;> rfl

/-- Without the properties without a type the typed ones are the same, -/
theorem typed_filter (ps : List Property) :
    typed (ps.filter fun p => !p.isUntyped) = typed ps := by
  rw [typed, stored, typed, stored, List.filter_filter, List.filter_filter, List.filter_filter]
  refine List.filter_congr ?_
  intro p _
  cases hty : p.ty <;> simp [isUntyped, hty]

/-- and so are the fields without data, -/
theorem phantoms_filter (ps : List Property) :
    phantoms (ps.filter fun p => !p.isUntyped) = phantoms ps := by
  rw [phantoms, phantoms, List.filter_filter]
  congr 1
  refine List.filter_congr ?_
  intro p _
  cases hty : p.ty <;> simp [isUntyped, isComputed, hty]

/-- and nothing is left to report. -/
theorem reports_filter (m : AttachedMacro) (ps : List Property) :
    (requireTypes m (stored (ps.filter fun p => !p.isUntyped))).2 = [] := by
  refine List.map_eq_nil_iff.mpr (List.filter_eq_nil_iff.mpr ?_)
  intro p hp
  obtain ⟨hkept, hstored⟩ := List.mem_filter.mp hp
  have hnamed : p.name.isSome = true := (Bool.and_eq_true_iff.mp hstored).2
  have htyped : p.isUntyped = false := by simpa using (List.mem_filter.mp hkept).2
  rw [isUntyped, hnamed, Bool.true_and] at htyped
  rw [htyped]
  exact Bool.false_ne_true

end Property

namespace StructDecl

variable {s : StructDecl} {ps : List Property}

/-- The properties of a structure without its fields without a type. -/
theorem properties_withoutUntyped (hread : (Item.struct s).properties = .ok ps) :
    (Item.struct s.withoutUntyped).properties = .ok (ps.filter fun p => !p.isUntyped) := by
  show (s.fields.filter fun f => !f.isUntyped).list.mapM Property.ofField = _
  rw [Fields.list_filter, mapM_eq_ok_iff]
  refine List.rel_filter ?_ (Item.forall₂_properties hread)
  intro f p hfp
  show (!f.isUntyped) = true ↔ (!p.isUntyped) = true
  rw [Property.isUntyped_of_ofField hfp]

/-- One report for each field without a type, at the place of the field. -/
theorem reports_eq (m : AttachedMacro) (hread : (Item.struct s).properties = .ok ps) :
    (requireTypes m (Property.stored ps)).2
      = (s.fields.list.filter Field.isUntyped).map fun f => ⟨.typeRequired m, f.span⟩ := by
  have hfields := Item.forall₂_properties hread
  -- a property without a type carries data, as far as one can see, and is not static
  have hmissing : (Property.stored ps).filter (fun p => p.ty.isNone)
      = ps.filter Property.isUntyped := by
    rw [Property.stored, List.filter_filter]
    refine List.filter_congr ?_
    intro p hp
    obtain ⟨f, -, hfp⟩ := exists_mem_of_forall₂ hfields hp
    obtain ⟨-, -, hstatic⟩ := Property.ofField_fixed hfp
    cases hty : p.ty <;>
      simp [Property.isUntyped, Property.isStored, Property.isComputed, hty, hstatic]
  show ((Property.stored ps).filter fun p => p.ty.isNone).map _ = _
  rw [hmissing]
  have hrelated : List.Forall₂ (fun f p => Property.ofField f = .ok p)
      (s.fields.list.filter Field.isUntyped) (ps.filter Property.isUntyped) := by
    refine List.rel_filter ?_ hfields
    intro f p hfp
    show f.isUntyped = true ↔ p.isUntyped = true
    rw [Property.isUntyped_of_ofField hfp]
  refine (map_congr_of_forall₂ ?_ hrelated).symm
  intro f p hfp
  obtain ⟨-, -, -, hspan, -⟩ := Property.foldlM_withAttr_fixed hfp
  rw [hspan]

end StructDecl

/-! ## Malformed markers -/

/-- The attribute is a marker that cannot be read, for this reason. -/
inductive Attribute.Fails (a : Attribute) : Failure → Prop where
  | value {failure : Failure} : a.isMarker .default = true →
      a.exprArgument = .error failure → Fails a failure
  | stub {failure : Failure} : a.isMarker .stub = true →
      a.stubArgument = .error failure → Fails a failure
  | parseable : a.isMarker .parseable = true → a.arguments.isEmpty = false →
      Fails a (.fault { cause := .markerArguments, span := Tokens.span a.tokens })

/-- What is malformed fails in one of these ways. -/
theorem Attribute.exists_fails {a : Attribute} (h : a.isWellFormed = false) :
    ∃ failure, a.Fails failure := by
  unfold Attribute.isWellFormed at h
  rw [Bool.and_eq_false_iff, Bool.and_eq_false_iff, Bool.or_eq_false_iff, Bool.or_eq_false_iff,
    Bool.or_eq_false_iff, Bool.not_eq_false', Bool.not_eq_false', Bool.not_eq_false'] at h
  rcases h with (⟨hmarker, hread⟩ | ⟨hmarker, hread⟩) | ⟨hmarker, hbare⟩
  · cases hresult : a.exprArgument with
    | error failure => exact ⟨failure, .value hmarker hresult⟩
    | ok e => rw [hresult] at hread; cases hread
  · cases hresult : a.stubArgument with
    | error failure => exact ⟨failure, .stub hmarker hresult⟩
    | ok e => rw [hresult] at hread; cases hread
  · exact ⟨_, .parseable hmarker hbare⟩

namespace Property

variable {bad : Attribute} {failure : Failure}

/-- A marker that fails stops the reading of the field with its failure. -/
theorem withAttr_of_fails (h : bad.Fails failure) (p : Property) :
    p.withAttr bad = .error failure := by
  -- an attribute is one marker only, so the tests before its own do not apply
  have hother (k l : Marker) (hk : bad.isMarker k = true) (hkl : k ≠ l) :
      ¬bad.isMarker l = true :=
    fun hl => hkl (Attribute.isMarker_unique hk hl)
  unfold withAttr
  cases h with
  | value hmarker hread => rw [if_pos hmarker, hread]; rfl
  | stub hmarker hread =>
      rw [if_neg (hother _ .default hmarker (by decide)), if_pos hmarker, hread]
      rfl
  | parseable hmarker hbare =>
      rw [if_neg (hother _ .default hmarker (by decide)),
        if_neg (hother _ .stub hmarker (by decide)), hmarker, hbare]
      rfl

/-- Within a field the first malformed marker counts. -/
theorem foldlM_withAttr_of_find? {attrs : List Attribute}
    (h : attrs.find? (fun a => !a.isWellFormed) = some bad) (hfails : bad.Fails failure)
    (p : Property) : attrs.foldlM withAttr p = .error failure := by
  induction attrs generalizing p with
  | nil => cases h
  | cons a rest ih =>
      rw [List.foldlM_cons]
      rw [List.find?_cons] at h
      cases hform : a.isWellFormed with
      | true =>
          obtain ⟨q, hq⟩ := exists_withAttr hform p
          rw [hform] at h
          rw [hq]
          exact ih h q
      | false =>
          rw [hform] at h
          cases h
          rw [withAttr_of_fails hfails p]
          rfl

/-- Within a structure the first field with a malformed marker counts. -/
theorem mapM_ofField_of_find? {fields : List Field}
    (h : (fields.flatMap Field.attrs).find? (fun a => !a.isWellFormed) = some bad)
    (hfails : bad.Fails failure) : fields.mapM ofField = .error failure := by
  induction fields with
  | nil => cases h
  | cons f rest ih =>
      rw [List.mapM_cons]
      rw [List.flatMap_cons, List.find?_append] at h
      cases hfirst : f.attrs.find? (fun a => !a.isWellFormed) with
      | some found =>
          rw [hfirst] at h
          cases h
          have hfield : ofField f = .error failure := foldlM_withAttr_of_find? hfirst hfails _
          rw [hfield]
          rfl
      | none =>
          -- the field is read, so what fails comes after it
          have hform : ∀ a ∈ f.attrs, a.isWellFormed = true := by
            simpa using List.find?_eq_none.mp hfirst
          obtain ⟨p, hp⟩ := (exists_ofField_iff f).mpr hform
          rw [hfirst] at h
          rw [hp, ih h]
          rfl

end Property

/-- What a failure to read a declaration comes to: a fault is reported, and nothing else
    is; a crash stays one. -/
def Failure.outcome {α : Type} : Failure → Except Crash (Expansion α)
  | .fault f => .ok (.report (.ofFault f))
  | .crash c => .error c

/-- A structure that cannot be read comes to its failure, whatever the macro is. -/
theorem expandStruct_of_failure {α : Type} {m : AttachedMacro} {a : Attachment} {s : StructDecl}
    {failure : Failure} (h : (Item.struct s).properties = .error failure)
    (generate : StructTarget → Except Crash α) :
    expandStruct m a (.struct s) generate = failure.outcome := by
  unfold expandStruct Item.storedProperties
  rw [h]
  cases failure <;> rfl

/-! ## What a macro on a structure says -/

namespace StructDecl

/-- The first malformed marker, in the order of the fields and of the attributes of each. -/
def firstMalformed? (s : StructDecl) : Option Attribute :=
  (s.fields.list.flatMap Field.attrs).find? fun a => !a.isWellFormed

end StructDecl

namespace AttachedMacro

/-- **A field without a type is reported, and nothing else comes of it.**  A macro on a
    structure with well formed markers reports exactly the fields with a name whose type
    is left to inference, in their order and each at its place; what it generates is what
    it generates, without any report, for the structure without these fields.  If a marker
    is malformed, nothing is generated: the failure of the first such marker is all that
    the macro comes to, one report unless it is a crash. -/
theorem reports_untyped_fields_only {m : AttachedMacro} (hm : m ∈ onStructs) (a : Attachment)
    (hsource : m = .conversion → a.source.isSome = true) (s : StructDecl) :
    (s.HasWellFormedMarkers → ∀ e, m.expand a (.struct s) = .ok e
        ↔ e.diagnostics
            = (s.fields.list.filter Field.isUntyped).map (fun f => ⟨.typeRequired m, f.span⟩)
          ∧ m.expand a (.struct s.withoutUntyped) = .ok { e with diagnostics := [] })
      ∧ ∀ bad, s.firstMalformed? = some bad →
        ∃ failure, bad.Fails failure ∧ m.expand a (.struct s) = failure.outcome := by
  obtain ⟨generate, hgenerator⟩ := exists_generator? hm hsource
  refine ⟨?_, ?_⟩
  · intro hmarkers e
    obtain ⟨ps, hread⟩ := s.exists_properties_iff.mpr hmarkers
    have hread' := StructDecl.properties_withoutUntyped hread
    have hsame := generate_congr hgenerator (s := s) (s.fields.filter fun f => !f.isUntyped)
      (Property.typed_filter ps) (Property.phantoms_filter ps)
    rw [expand_struct_eq hgenerator, expand_struct_eq hgenerator, expandStruct_eq m a hread,
      expandStruct_eq m a hread', Property.typed_filter, Property.reports_filter,
      ← StructDecl.reports_eq m hread]
    -- both runs generate from the same, and differ in the reports alone
    show _ ↔ _ ∧ (if _ then _ else Except.map _ (generate (.ofProperties a
      { s with fields := s.fields.filter fun f => !f.isUntyped } _))) = _
    rw [hsame]
    obtain ⟨items, diagnostics⟩ := e
    cases (Property.typed ps).isEmpty with
    | true => simp [and_comm, eq_comm]
    | false =>
        cases generate (.ofProperties a s ps) with
        | error c => simp [Except.map]
        | ok g => simp [Except.map, and_comm, eq_comm]
  · intro bad hbad
    have hform : bad.isWellFormed = false := by
      simpa using List.find?_some hbad
    obtain ⟨failure, hfails⟩ := Attribute.exists_fails hform
    refine ⟨failure, hfails, ?_⟩
    rw [expand_struct_eq hgenerator]
    exact expandStruct_of_failure (Property.mapM_ofField_of_find? hbad hfails) generate

end AttachedMacro

/-- A draft with two fields without a type, one of them with a value, among fields of all
    kinds. -/
def Sample.draft : Sample where
  source := "#[auto_init] struct Draft<T> \x7b #[default(1)] issue: _, title: String, "
    ++ "#[stub] note: Option<u8>, #[stub] author: _, tag: PhantomData<T> \x7d"

/-- A torn declaration with three malformed markers, after one that is well formed. -/
def Sample.torn : Sample where
  source := "struct Torn \x7b #[auto_parseable] left: _, #[stub(1)] #[default(2 3)] "
    ++ "#[stub(4 5)] middle: u8, #[auto_parseable(6)] right: u8 \x7d"

/-- A macro that converts from the empty tuple, if it converts at all. -/
def Sample.fromUnit : Attachment := { source := some (.tuple [] .callSite) }

/-- For the draft all four macros report its two fields and generate as for the three
    others, and for the torn declaration they report the value that cannot be read. -/
theorem Sample.draft_torn_reports :
    (∃ s, Sample.draft.struct? = some s ∧ s.HasWellFormedMarkers
        ∧ s.withoutUntyped.fields.list.length = 3
        ∧ ∀ m ∈ AttachedMacro.onStructs, ∃ e,
          m.expand Sample.fromUnit (.struct s) = .ok e
            ∧ e.items.length = 1 ∧ e.diagnostics.length = 2
            ∧ m.expand Sample.fromUnit (.struct s.withoutUntyped)
              = .ok { e with diagnostics := [] })
      ∧ ∃ s bad, Sample.torn.struct? = some s ∧ s.firstMalformed? = some bad
        ∧ bad.isMarker .default = true
        ∧ ∀ m ∈ AttachedMacro.onStructs, ∃ fault, bad.Fails (.fault fault)
          ∧ m.expand Sample.fromUnit (.struct s)
            = .ok (.report (.ofFault fault)) := by
  refine ⟨?_, ?_⟩
  · have hcheck : (Sample.draft.struct?.any fun s => decide (s.HasWellFormedMarkers
        ∧ s.withoutUntyped.fields.list.length = 3
        ∧ (s.fields.list.filter Field.isUntyped).length = 2)
        && AttachedMacro.onStructs.all fun m =>
          (m.expand Sample.fromUnit (.struct s)).toOption.any
            fun e => e.items.length == 1) = true := by
      decide +kernel
    obtain ⟨s, hs, hall⟩ := (Option.any_eq_true _ _).mp hcheck
    obtain ⟨hfacts, hmacros⟩ := Bool.and_eq_true_iff.mp hall
    obtain ⟨hmarkers, hkept, huntyped⟩ := of_decide_eq_true hfacts
    refine ⟨s, hs, hmarkers, hkept, ?_⟩
    intro m hm
    obtain ⟨e, he, hitems⟩ := (Option.any_eq_true _ _).mp (List.all_eq_true.mp hmacros m hm)
    have he := eq_ok_of_toOption he
    obtain ⟨hwellFormed, -⟩ :=
      AttachedMacro.reports_untyped_fields_only hm Sample.fromUnit (fun _ => rfl) s
    obtain ⟨hreports, hsame⟩ := (hwellFormed hmarkers e).mp he
    refine ⟨e, he, of_decide_eq_true hitems, ?_, hsame⟩
    rw [hreports, List.length_map, huntyped]
  · have hcheck : (Sample.torn.struct?.any fun s => (s.firstMalformed?.any
        (·.isMarker .default)) && AttachedMacro.onStructs.all fun m =>
          (m.expand Sample.fromUnit (.struct s)).toOption.isSome)
        = true := by
      decide +kernel
    obtain ⟨s, hs, hall⟩ := (Option.any_eq_true _ _).mp hcheck
    obtain ⟨hfirst, hmacros⟩ := Bool.and_eq_true_iff.mp hall
    obtain ⟨bad, hbad, hmarker⟩ := (Option.any_eq_true _ _).mp hfirst
    refine ⟨s, bad, hs, hbad, hmarker, ?_⟩
    intro m hm
    obtain ⟨failure, hfails, hexpand⟩ :=
      (AttachedMacro.reports_untyped_fields_only hm Sample.fromUnit (fun _ => rfl) s).2 bad hbad
    cases failure with
    | fault fault => exact ⟨fault, hfails, hexpand⟩
    | crash c =>
        have hsome := List.all_eq_true.mp hmacros m hm
        rw [hexpand] at hsome
        cases hsome

end DeclMacros
