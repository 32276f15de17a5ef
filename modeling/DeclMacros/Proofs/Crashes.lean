import DeclMacros.Proofs.Literals
import DeclMacros.Proofs.SafeItems
import DeclMacros.Proofs.Variants
import DeclMacros.Proofs.Wrapping

/-! # Which declarations crash a macro

    An expansion reads markers and makes names, and both can crash.  This file says
    on which items each macro does (`AttachedMacro.CrashesOn`), and proves that of
    every item that is read from tokens without traps.

    The route: in an item that was read the arguments of markers can be read
    (`Item.IsRead`), so no marker crashes (`Item.properties_ne_crash`).  What is left
    are the names.  A macro on a structure crashes only where it generates
    (`exists_error_expandStruct_iff`), and there only the builder makes a name; the
    wrapper makes one if the trait passes all checks (`expand_of_isErased`), and the
    accessors make one or two for each variant (`exists_ofVariant_iff`).

    Without the condition on traps this fails: a function pointer type that loses a
    separator crashes the constructor, and so does a literal of no known kind
    (`Sample.handler_fragment_crash_constructor`). -/

set_option autoImplicit false

namespace DeclMacros

/-! ## Results that are no crash -/

section Results

variable {ε α β : Type}

theorem not_exists_error_ok {x : α} : ¬∃ e : ε, Except.ok x = .error e := by
  rintro ⟨e, ⟨⟩⟩

/-- What does not go well is an error. -/
theorem exists_error_iff {r : Except ε α} : (∃ e, r = .error e) ↔ ¬∃ x, r = .ok x := by
  cases r with
  | error e => exact iff_of_true ⟨e, rfl⟩ (by rintro ⟨x, ⟨⟩⟩)
  | ok x => exact iff_of_false not_exists_error_ok (not_not_intro ⟨x, rfl⟩)

theorem exists_error_map_iff {r : Except ε α} {f : α → β} :
    (∃ e, r.map f = .error e) ↔ ∃ e, r = .error e := by
  cases r with
  | error e => exact iff_of_true ⟨e, rfl⟩ ⟨e, rfl⟩
  | ok x => exact iff_of_false not_exists_error_ok not_exists_error_ok

/-- To go on where nothing can go wrong adds no errors. -/
theorem exists_error_bind_iff {r : Except ε α} {f : α → Except ε β} (hf : ∀ x, ∃ y, f x = .ok y) :
    (∃ e, r >>= f = .error e) ↔ ∃ e, r = .error e := by
  cases r with
  | error e => exact iff_of_true ⟨e, rfl⟩ ⟨e, rfl⟩
  | ok x =>
      refine iff_of_false ?_ not_exists_error_ok
      intro h
      exact exists_error_iff.mp h (hf x)

/-- Something is read or is at fault, but reading it does not crash. -/
def Crashless (r : Except Failure α) : Prop := ∀ c, r ≠ .error (.crash c)

theorem crashless_ok (x : α) : Crashless (.ok x) := by
  rintro c ⟨⟩

theorem crashless_fault (f : Fault) : Crashless (.error (.fault f) : Except Failure α) := by
  rintro c ⟨⟩

theorem Crashless.bind {r : Except Failure α} {f : α → Except Failure β} (hr : Crashless r)
    (hf : ∀ x, Crashless (f x)) : Crashless (r >>= f) := by
  intro c h
  cases r with
  | error e => exact hr c (congrArg Except.error (Except.error.inj h))
  | ok x => exact hf x c h

theorem Crashless.foldlM {f : β → α → Except Failure β} {xs : List α}
    (hf : ∀ x ∈ xs, ∀ y, Crashless (f y x)) (y : β) : Crashless (xs.foldlM f y) := by
  induction xs generalizing y with
  | nil => exact crashless_ok y
  | cons x xs ih =>
      obtain ⟨hx, hxs⟩ := List.forall_mem_cons.mp hf
      rw [List.foldlM_cons]
      exact (hx y).bind (ih hxs)

theorem Crashless.mapM {f : α → Except Failure β} {xs : List α} (hf : ∀ x ∈ xs, Crashless (f x)) :
    Crashless (xs.mapM f) := by
  induction xs with
  | nil => exact crashless_ok []
  | cons x xs ih =>
      obtain ⟨hx, hxs⟩ := List.forall_mem_cons.mp hf
      rw [List.mapM_cons]
      exact hx.bind fun _ => (ih hxs).bind fun _ => crashless_ok _

end Results

/-! ## Markers -/

namespace Attribute

variable {a : Attribute}

theorem crashless_exprArgument (ha : a.arguments.isReadable = true) :
    Crashless a.exprArgument :=
  Parser.attrArguments_ne_crash ha

theorem crashless_stubArgument (ha : a.arguments.isReadable = true) :
    Crashless a.stubArgument := by
  unfold stubArgument
  by_cases hbare : a.arguments.isEmpty = true
  · rw [if_pos hbare]
    exact crashless_ok _
  · rw [if_neg hbare]
    exact Parser.attrArguments_ne_crash ha

end Attribute

namespace Property

/-- An attribute whose arguments can be read does not crash. -/
theorem crashless_withAttr {a : Attribute} (ha : a.arguments.isReadable = true) (p : Property) :
    Crashless (p.withAttr a) := by
  unfold withAttr
  by_cases hdefault : a.isMarker .default = true
  · rw [if_pos hdefault]
    exact (Attribute.crashless_exprArgument ha).bind fun _ => crashless_ok _
  rw [if_neg hdefault]
  by_cases hstub : a.isMarker .stub = true
  · rw [if_pos hstub]
    exact (Attribute.crashless_stubArgument ha).bind fun _ => crashless_ok _
  rw [if_neg hstub]
  by_cases hparse : (a.isMarker .parseable && !a.arguments.isEmpty) = true
  · rw [if_pos hparse]
    exact crashless_fault _
  · rw [if_neg hparse]
    exact crashless_ok p

end Property

/-- No marker of a structure that was read crashes. -/
theorem Item.properties_ne_crash {s : StructDecl} (hs : s.fields.IsRead) :
    Crashless (Item.struct s).properties :=
  Crashless.mapM fun f hf =>
    Crashless.foldlM (fun a ha p => Property.crashless_withAttr (hs f hf a ha) p) _

/-! ## Macros on structures -/

/-- A builder is generated for the structure: its markers are well formed, and there is a field to
    generate from. -/
structure StructDecl.IsBuilt (s : StructDecl) : Prop where
  wellFormed : s.HasWellFormedMarkers
  holdsTyped : ∃ f ∈ s.fields.list, f.isTyped = true

instance StructDecl.decidableIsBuilt (s : StructDecl) : Decidable s.IsBuilt :=
  decidable_of_iff (s.HasWellFormedMarkers ∧ ∃ f ∈ s.fields.list, f.isTyped = true)
    ⟨fun ⟨h₁, h₂⟩ => ⟨h₁, h₂⟩, fun ⟨h₁, h₂⟩ => ⟨h₁, h₂⟩⟩

section Structures

variable {s : StructDecl} {ps : List Property}

/-- Something is generated from typed fields, and only from such. -/
theorem Property.typed_ne_nil_iff (hread : (Item.struct s).properties = .ok ps) :
    Property.typed ps ≠ [] ↔ ∃ f ∈ s.fields.list, f.isTyped = true := by
  have hlength := (StructDecl.forall₂_typedFields hread).length_eq
  rw [← List.length_pos_iff, ← hlength, List.length_pos_iff, ← List.isEmpty_eq_false_iff,
    StructDecl.typedFields, List.isEmpty_eq_false_iff_exists_mem]
  simp only [List.mem_filter]

/-- A structure is read with something to generate from exactly when it is to be built. -/
theorem StructDecl.isBuilt_iff (s : StructDecl) :
    s.IsBuilt ↔ ∃ ps, (Item.struct s).properties = .ok ps ∧ Property.typed ps ≠ [] := by
  constructor
  · intro h
    obtain ⟨ps, hread⟩ := s.exists_properties_iff.mpr h.wellFormed
    exact ⟨ps, hread, (Property.typed_ne_nil_iff hread).mpr h.holdsTyped⟩
  · rintro ⟨ps, hread, htyped⟩
    exact ⟨s.exists_properties_iff.mp ⟨ps, hread⟩, (Property.typed_ne_nil_iff hread).mp htyped⟩

/-- A macro on a structure that was read crashes only where it generates. -/
theorem exists_error_expandStruct_iff {α : Type} {m : AttachedMacro} {a : Attachment}
    {generate : StructTarget → Except Crash α} (hs : s.fields.IsRead) :
    (∃ c, expandStruct m a (.struct s) generate = .error c)
      ↔ ∃ ps, ((Item.struct s).properties = .ok ps ∧ Property.typed ps ≠ [])
        ∧ ∃ c, generate (.ofProperties a s ps) = .error c := by
  cases hread : (Item.struct s).properties with
  | error e =>
      cases e with
      | crash c => exact absurd hread (Item.properties_ne_crash hs c)
      | fault f =>
          have hreport : expandStruct m a (.struct s) generate = .ok (.report (.ofFault f)) := by
            unfold expandStruct Item.storedProperties
            rw [hread]
            rfl
          rw [hreport]
          exact iff_of_false not_exists_error_ok (by rintro ⟨ps, ⟨⟨⟩, -⟩, -⟩)
  | ok ps =>
      rw [expandStruct_eq m a hread]
      by_cases hempty : Property.typed ps = []
      · rw [if_pos (List.isEmpty_iff.mpr hempty)]
        refine iff_of_false not_exists_error_ok ?_
        rintro ⟨_, ⟨hps, htyped⟩, -⟩
        exact htyped (Except.ok.inj hps ▸ hempty)
      · rw [if_neg (mt List.isEmpty_iff.mp hempty), exists_error_map_iff]
        constructor
        · intro h
          exact ⟨ps, ⟨rfl, hempty⟩, h⟩
        · rintro ⟨_, ⟨hps, -⟩, h⟩
          rw [Except.ok.inj hps]
          exact h

end Structures

/-! ## Names -/

namespace Ident

open DeclMacros.Text

variable {i : Ident}

/-- A name is made unless the text does not have the form of an identifier. -/
theorem exists_error_make_iff {text : String} {span : Span} :
    (∃ c, make text span = .error c) ↔ isIdentText text.toList = false := by
  simp only [exists_error_iff, make_eq_ok_iff, exists_and_left, exists_eq, and_true,
    Bool.not_eq_true]

/-- A raw name is printed with a number sign in it. -/
theorem mem_hash_display (h : i.raw = true) : '#' ∈ i.display.toList := by
  rw [display, if_pos h, String.toList_append]
  exact List.mem_append_left _ (by decide)

theorem display_of_plain (h : i.raw = false) : i.display = i.text := by
  rw [display, if_neg (Bool.eq_false_iff.mp h)]

/-- A builder cannot be named after a raw name, and after every other one it can. -/
theorem exists_error_builderName_iff (hform : i.hasForm = true) :
    (∃ c, i.builderName = .error c) ↔ i.raw = true := by
  unfold builderName
  rw [exists_error_make_iff]
  cases hraw : i.raw with
  | true =>
      have hmem : '#' ∈ (i.display ++ "Builder").toList := by
        rw [String.toList_append]
        exact List.mem_append_left _ (mem_hash_display hraw)
      exact iff_of_true (isIdentText_of_mem_hash hmem) rfl
  | false =>
      rw [display_of_plain hraw, isIdentText_append_text hform (by decide)]
      decide

/-- The same holds of wrappers. -/
theorem exists_error_erasedName_iff (hform : i.hasForm = true) :
    (∃ c, i.erasedName = .error c) ↔ i.raw = true := by
  unfold erasedName
  rw [exists_error_make_iff]
  cases hraw : i.raw with
  | true =>
      have hmem : '#' ∈ ("Any" ++ i.display).toList := by
        rw [String.toList_append]
        exact List.mem_append_right _ (mem_hash_display hraw)
      exact iff_of_true (isIdentText_of_mem_hash hmem) rfl
  | false =>
      rw [display_of_plain hraw, isIdentText_append_text (by decide) hform]
      decide

/-- No accessor can be named after the name: it has no letter or number, or the first one
    cannot start an identifier. -/
def LacksAccessor (i : Ident) : Prop :=
  i.text.toList.find? isAlphanumeric = none
    ∨ ∃ c, i.text.toList.find? isAlphanumeric = some c ∧ isXidStart c = false

theorem lacksAccessor_iff :
    i.LacksAccessor
      ↔ ¬∃ c, i.text.toList.find? isAlphanumeric = some c ∧ isXidStart c = true := by
  unfold LacksAccessor
  cases i.text.toList.find? isAlphanumeric with
  | none => simp
  | some c => simp

instance decidableLacksAccessor (i : Ident) : Decidable i.LacksAccessor :=
  decidable_of_iff (¬(i.text.toList.find? isAlphanumeric).any isXidStart = true)
    (by rw [lacksAccessor_iff, Option.any_eq_true])

end Ident

/-! ## Wrappers and accessors -/

/-- A wrapper is generated for the trait, as it passes all checks: it is not generic, it
    has a property, nothing is reported about its members, and a property is among those
    that the wrapper copies. -/
structure TraitDecl.IsErased (t : TraitDecl) : Prop where
  plain : Wrapper.isGenericTrait t = false
  hasProperty : t.methods.any TraitMethod.isProperty = true
  quiet : Wrapper.reportsOf t = []
  copiesProperty : (Wrapper.membersOf t).any WrapperMember.isProperty = true

instance TraitDecl.decidableIsErased (t : TraitDecl) : Decidable t.IsErased :=
  decidable_of_iff
    (Wrapper.isGenericTrait t = false ∧ t.methods.any TraitMethod.isProperty = true
      ∧ (Wrapper.reportsOf t).isEmpty = true
      ∧ (Wrapper.membersOf t).any WrapperMember.isProperty = true)
    ⟨fun ⟨h₁, h₂, h₃, h₄⟩ => ⟨h₁, h₂, List.isEmpty_iff.mp h₃, h₄⟩,
      fun ⟨h₁, h₂, h₃, h₄⟩ => ⟨h₁, h₂, List.isEmpty_iff.mpr h₃, h₄⟩⟩

namespace Wrapper

variable {a : Attachment} {t : TraitDecl}

/-- For a trait that passes all checks a wrapper is generated if it can be named. -/
theorem expand_of_isErased (h : t.IsErased) :
    expand a (.trait t) = t.name.erasedName.map fun name =>
      { items := [{ traitName := t.name, name := name, vis := (Item.trait t).resolveAccess a.access,
                    unsafety := t.unsafety, members := membersOf t }] } := by
  unfold expand
  dsimp only
  rw [if_neg (by simp [h.plain]), if_neg (by simp [h.hasProperty]), if_neg (by simp [h.quiet]),
    if_neg (by simp [h.copiesProperty])]
  rfl

/-- For any other none is. -/
theorem expand_of_not_isErased (h : ¬t.IsErased) :
    ∃ diagnostics, expand a (.trait t) = .ok { diagnostics := diagnostics } := by
  unfold expand
  dsimp only
  by_cases hgeneric : isGenericTrait t = true
  · exact ⟨_, if_pos hgeneric⟩
  rw [if_neg hgeneric]
  by_cases hproperty : (!t.methods.any TraitMethod.isProperty) = true
  · exact ⟨_, if_pos hproperty⟩
  rw [if_neg hproperty]
  by_cases hreports : (!(reportsOf t).isEmpty) = true
  · exact ⟨_, if_pos hreports⟩
  rw [if_neg hreports]
  by_cases hcopied : (!(membersOf t).any WrapperMember.isProperty) = true
  · exact ⟨_, if_pos hcopied⟩
  refine absurd ⟨?_, ?_, ?_, ?_⟩ h
  · simpa using hgeneric
  · simpa using hproperty
  · simpa using hreports
  · simpa using hcopied

/-- A wrapper crashes when it would be generated under a name that is raw. -/
theorem exists_error_expand_iff (hform : t.name.hasForm = true) :
    (∃ c, expand a (.trait t) = .error c) ↔ t.IsErased ∧ t.name.raw = true := by
  by_cases h : t.IsErased
  · rw [expand_of_isErased h, exists_error_map_iff, Ident.exists_error_erasedName_iff hform]
    exact (and_iff_right h).symm
  · obtain ⟨diagnostics, hexpand⟩ := expand_of_not_isErased (a := a) h
    rw [hexpand]
    exact iff_of_false not_exists_error_ok fun hboth => h hboth.1

end Wrapper

namespace Accessors

open DeclMacros.Text

/-- The accessors of a variant can be named if it has no fields, or has a name that
    accessors can be named after. -/
theorem exists_ofVariant_iff {v : Variant} (hform : v.name.hasForm = true) :
    (∃ acc, VariantAccess.ofVariant v = .ok acc) ↔ v.fields.list = [] ∨ ¬v.name.LacksAccessor := by
  -- the check is named in any case, as its name has a start of its own
  have hcheck : ∃ i, Ident.escaped ("is_" ++ snakeCase v.name.text) v.name.span = .ok i := by
    refine Ident.exists_escaped_iff.mpr ⟨isIdentText_check hform, ?_⟩
    intro h
    simpa using congrArg String.toList h
  obtain ⟨check, hcheck⟩ := hcheck
  have hpayload : (∃ i, Ident.escaped (snakeCase v.name.text) v.name.span = .ok i)
      ↔ ¬v.name.LacksAccessor := by
    rw [Ident.exists_escaped_iff, isIdentText_snakeCase_iff hform, Ident.lacksAccessor_iff, not_not]
    exact and_iff_left (snakeCase_ne_underscore _)
  simp only [VariantAccess.ofVariant_eq_ok_iff, ← hpayload]
  constructor
  · rintro ⟨acc, -, -, ⟨hfields, -⟩ | ⟨-, i, hi, -⟩⟩
    · exact .inl hfields
    · exact .inr ⟨i, hi⟩
  · intro h
    by_cases hfields : v.fields.list = []
    · exact ⟨_, check, hcheck, .inl ⟨hfields, rfl⟩⟩
    · obtain ⟨i, hi⟩ := h.resolve_left hfields
      exact ⟨_, check, hcheck, .inr ⟨hfields, i, hi, rfl⟩⟩

/-- Accessors crash when one of the variants has fields and a name without accessor. -/
theorem exists_error_expand_iff {a : Attachment} {e : EnumDecl}
    (hform : ∀ v ∈ e.variants.values, v.name.hasForm = true) :
    (∃ c, expand a (.enum e) = .error c)
      ↔ ∃ v ∈ e.variants.values, v.fields.list ≠ [] ∧ v.name.LacksAccessor := by
  have hall : (∃ c, e.variants.values.mapM VariantAccess.ofVariant = .error c)
      ↔ ∃ v ∈ e.variants.values, v.fields.list ≠ [] ∧ v.name.LacksAccessor := by
    rw [exists_error_iff, exists_mapM_eq_ok_iff]
    simp only [not_forall, exists_prop]
    refine exists_congr fun v => and_congr_right fun hv => ?_
    rw [exists_ofVariant_iff (hform v hv), not_or, not_not]
  unfold expand
  dsimp only
  by_cases hempty : e.variants.isEmpty = true
  · rw [if_pos hempty, ← hall, List.isEmpty_iff.mp hempty]
    exact iff_of_false not_exists_error_ok not_exists_error_ok
  · rw [if_neg hempty, ← hall]
    exact exists_error_bind_iff fun _ => ⟨_, rfl⟩

end Accessors

/-! ## All macros -/

namespace AttachedMacro

variable {item : Item}

/-- The declarations on which a macro crashes. -/
def CrashesOn (m : AttachedMacro) (item : Item) : Prop :=
  match m with
  | .constructor | .stub | .conversion => False
  | .builder => ∃ s, item = .struct s ∧ s.IsBuilt ∧ s.name.raw = true
  | .erasure => ∃ t, item = .trait t ∧ t.IsErased ∧ t.name.raw = true
  | .accessors => ∃ e, item = .enum e
    ∧ ∃ v ∈ e.variants.values, v.fields.list ≠ [] ∧ v.name.LacksAccessor

/-- The same as a test. -/
def crashesOn : AttachedMacro → Item → Bool
  | .builder, .struct s => decide (s.IsBuilt ∧ s.name.raw = true)
  | .erasure, .trait t => decide (t.IsErased ∧ t.name.raw = true)
  | .accessors, .enum e =>
    decide (∃ v ∈ e.variants.values, v.fields.list ≠ [] ∧ v.name.LacksAccessor)
  | _, _ => false

theorem crashesOn_iff (m : AttachedMacro) (item : Item) :
    m.crashesOn item = true ↔ m.CrashesOn item := by
  cases m <;> cases item <;> simp [crashesOn, CrashesOn]

/-- A macro on a structure that makes no name does not crash. -/
theorem expandStruct_ne_error {α : Type} (m : AttachedMacro) (a : Attachment) (h : item.IsRead)
    (generate : StructTarget → α) :
    ¬∃ c, expandStruct m a item (fun t => .ok (generate t)) = .error c := by
  cases item with
  | struct s =>
      rw [exists_error_expandStruct_iff h.2]
      rintro ⟨ps, -, c, hc⟩
      cases hc
  | _ => exact not_exists_error_ok

theorem exists_error_builder_iff (a : Attachment) (h : item.IsRead) :
    (∃ c, Builder.expand a item = .error c) ↔ builder.CrashesOn item := by
  cases item with
  | struct s =>
      have hname (ps : List Property) :
          (∃ c, Builder.ofTarget (.ofProperties a s ps) = .error c) ↔ s.name.raw = true :=
        (exists_error_bind_iff fun _ => ⟨_, rfl⟩).trans (Ident.exists_error_builderName_iff h.1)
      rw [Builder.expand, exists_error_expandStruct_iff h.2]
      simp [hname, ← StructDecl.isBuilt_iff, CrashesOn]
  | _ => exact iff_of_false not_exists_error_ok (by rintro ⟨_, ⟨⟩, -⟩)

theorem exists_error_erasure_iff (a : Attachment) (h : item.IsRead) :
    (∃ c, Wrapper.expand a item = .error c) ↔ erasure.CrashesOn item := by
  cases item with
  | trait t =>
      rw [Wrapper.exists_error_expand_iff h]
      simp [CrashesOn]
  | _ => exact iff_of_false not_exists_error_ok (by rintro ⟨_, ⟨⟩, -⟩)

theorem exists_error_accessors_iff (a : Attachment) (h : item.IsRead) :
    (∃ c, Accessors.expand a item = .error c) ↔ accessors.CrashesOn item := by
  cases item with
  | enum e =>
      rw [Accessors.exists_error_expand_iff h]
      simp [CrashesOn]
  | _ => exact iff_of_false not_exists_error_ok (by rintro ⟨_, ⟨⟩, -⟩)

theorem conversion_ne_error (a : Attachment) (h : item.IsRead) :
    ¬∃ c, Conversion.expand a item = .error c := by
  cases item with
  | struct s =>
      unfold Conversion.expand
      cases a.source with
      | none => exact not_exists_error_ok
      | some source => exact expandStruct_ne_error .conversion a h _
  | _ => exact not_exists_error_ok

/-- A macro crashes on an item that was read exactly when the item is one of these. -/
theorem exists_error_expand_iff (m : AttachedMacro) (a : Attachment) (h : item.IsRead) :
    (∃ c, m.expand a item = .error c) ↔ m.CrashesOn item := by
  cases m
  -- each macro packs what its own expansion gives, and that adds no crash
  all_goals refine (exists_error_bind_iff fun _ => ⟨_, rfl⟩).trans ?_
  case constructor => exact iff_false_intro (expandStruct_ne_error _ a h _)
  case stub => exact iff_false_intro (expandStruct_ne_error _ a h _)
  case conversion => exact iff_false_intro (conversion_ne_error a h)
  case builder => exact exists_error_builder_iff a h
  case erasure => exact exists_error_erasure_iff a h
  case accessors => exact exists_error_accessors_iff a h

/-- **What crashes.**  Tokens of the forms that a lexer gives, with or without invisible
    groups among them, are read without a crash if there are no traps in them; and on an item
    that is read from them a macro crashes, whatever is written where it is attached, exactly
    when `CrashesOn` says so: constructors and conversions never, the others on names that they
    cannot build on. -/
theorem crashes_exactly_on {ts : Tokens} (hlexed : Token.areLexed ts = true)
    (htraps : ts.isTrapFree = true) :
    (∀ c, ts.readItem ≠ .error (.crash c))
      ∧ ∀ item, ts.readItem = .ok item → ∀ (m : AttachedMacro) (a : Attachment),
        (∃ c, m.expand a item = .error c) ↔ m.CrashesOn item := by
  have hreadable := Tokens.isReadable_of_isTrapFree hlexed htraps
  refine ⟨Tokens.readItem_ne_crash hreadable, ?_⟩
  intro item hitem m a
  exact exists_error_expand_iff m a (Tokens.isRead_of_readItem hreadable hitem)

end AttachedMacro

namespace Sample

/-- A sample without traps and with a declaration that passes a test was lexed and read. -/
theorem exists_trapFree {s : Sample} {p : Item → Bool}
    (h : s.item?.any p = true ∧ (Tokens.lex? s.source).all Tokens.isTrapFree = true) :
    ∃ item, ∃ ts : Tokens, s.item? = some item ∧ p item = true ∧ Token.areLexed ts = true
      ∧ ts.isTrapFree = true ∧ ts.readItem = .ok item := by
  obtain ⟨item, hitem, hp⟩ := (Option.any_eq_true _ _).mp h.1
  obtain ⟨ts, hlex, hread⟩ := Option.bind_eq_some_iff.mp hitem
  refine ⟨item, ts, hitem, hp, Tokens.areLexed_of_lex? hlex,
    (Option.all_eq_true _ _).mp h.2 ts hlex, ?_⟩
  cases hfound : ts.readItem with
  | error e => rw [hfound] at hread; cases hread
  | ok found => rw [hfound] at hread; rw [Option.some.inj hread]

/-- A structure with a raw name. -/
def ticket : Sample where
  source := "struct r#Ticket \x7b pub id: u32, #[default(false)] pub used: bool \x7d"

/-- The same where the type of the field was substituted as a whole. -/
def ticketFragment : Tokens :=
  [.word "struct", .ident { text := "Ticket", raw := true }, .braces (.word "id" :: Tokens.op ":"
    ++ [.group .invisible [.word "u32"] .callSite])]

/-- A trait with a raw name. -/
def speaker : Sample where
  source := "trait r#Speaker \x7b #[property] fn name(&self) -> String; \x7d"

/-- An enumeration with a numbered variant. -/
def slot : Sample where
  source := "enum Slot \x7b Free, _1(u8) \x7d"

/-- The builder of a structure with a raw name crashes, though the constructor does not,
    with an invisible group in it or without; and so do the wrapper of a trait with such a name,
    and the accessors of a numbered variant. -/
theorem ticket_speaker_slot_crash :
    (∃ item, ticket.item? = some item
      ∧ (∃ c, AttachedMacro.builder.expand {} item = .error c)
      ∧ ¬∃ c, AttachedMacro.constructor.expand {} item = .error c)
    ∧ (∃ item, ticketFragment.readItem = .ok item
      ∧ (∃ c, AttachedMacro.builder.expand {} item = .error c)
      ∧ ¬∃ c, AttachedMacro.constructor.expand {} item = .error c)
    ∧ (∃ item, speaker.item? = some item
      ∧ ∃ c, AttachedMacro.erasure.expand {} item = .error c)
    ∧ ∃ item, slot.item? = some item
      ∧ ∃ c, AttachedMacro.accessors.expand {} item = .error c := by
  refine ⟨?_, ?_, ?_, ?_⟩
  · obtain ⟨item, ts, hitem, hcrash, hlexed, htraps, hread⟩ :=
      exists_trapFree (s := ticket) (p := AttachedMacro.builder.crashesOn) (by decide +kernel)
    have hexact := (AttachedMacro.crashes_exactly_on hlexed htraps).2 item hread
    exact ⟨item, hitem,
      (hexact .builder {}).mpr ((AttachedMacro.crashesOn_iff _ _).mp hcrash),
      mt (hexact .constructor {}).mp id⟩
  · have hcheck : (ticketFragment.readItem.toOption.any AttachedMacro.builder.crashesOn
        && Token.areLexed ticketFragment && ticketFragment.isTrapFree) = true := by
      decide +kernel
    simp only [Bool.and_eq_true] at hcheck
    obtain ⟨⟨hread, hlexed⟩, htraps⟩ := hcheck
    obtain ⟨item, hread, hcrash⟩ := (Option.any_eq_true _ _).mp hread
    have hread := eq_ok_of_toOption hread
    have hexact := (AttachedMacro.crashes_exactly_on hlexed htraps).2 item hread
    exact ⟨item, hread,
      (hexact .builder {}).mpr ((AttachedMacro.crashesOn_iff _ _).mp hcrash),
      mt (hexact .constructor {}).mp id⟩
  · obtain ⟨item, ts, hitem, hcrash, hlexed, htraps, hread⟩ :=
      exists_trapFree (s := speaker) (p := AttachedMacro.erasure.crashesOn) (by decide +kernel)
    have hexact := (AttachedMacro.crashes_exactly_on hlexed htraps).2 item hread
    exact ⟨item, hitem, (hexact .erasure {}).mpr ((AttachedMacro.crashesOn_iff _ _).mp hcrash)⟩
  · obtain ⟨item, ts, hitem, hcrash, hlexed, htraps, hread⟩ :=
      exists_trapFree (s := slot) (p := AttachedMacro.accessors.crashesOn) (by decide +kernel)
    have hexact := (AttachedMacro.crashes_exactly_on hlexed htraps).2 item hread
    exact ⟨item, hitem, (hexact .accessors {}).mpr ((AttachedMacro.crashesOn_iff _ _).mp hcrash)⟩

/-- A structure with a value that is cast to a type that loses a separator. -/
def handler : Sample where
  source := "struct S \x7b #[default(f as fn(mut self: u8, u8, u8))] a: u8 \x7d"

/-- A structure with the placeholder of an erroneous fragment as a value. -/
def fragment : Sample where
  source := "struct S \x7b #[default(" ++ Lexer.errorMark ++ ")] a: u8 \x7d"

/-- A macro that has no result for a sample crashes on its declaration. -/
theorem exists_error_of_isNone {s : Sample} {m : AttachedMacro}
    (h : (s.item?.any fun item => (m.expand {} item).toOption.isNone) = true) :
    ∃ item, s.item? = some item ∧ ∃ c, m.expand {} item = .error c := by
  obtain ⟨item, hitem, hnone⟩ := (Option.any_eq_true _ _).mp h
  refine ⟨item, hitem, exists_error_iff.mpr ?_⟩
  rintro ⟨x, hx⟩
  rw [hx] at hnone
  cases hnone

/-- Neither text has a quote in it, and the constructor crashes on what is read from it. -/
theorem handler_fragment_crash_constructor :
    ('"' ∉ handler.source.toList ∧ ∃ item, handler.item? = some item
      ∧ ∃ c, AttachedMacro.constructor.expand {} item = .error c)
    ∧ '"' ∉ fragment.source.toList ∧ ∃ item, fragment.item? = some item
      ∧ ∃ c, AttachedMacro.constructor.expand {} item = .error c :=
  ⟨⟨by decide, exists_error_of_isNone (by decide +kernel)⟩,
    by decide, exists_error_of_isNone (by decide +kernel)⟩

end Sample

end DeclMacros
