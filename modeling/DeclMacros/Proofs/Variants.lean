import Mathlib.Data.List.Forall2
import Mathlib.Data.List.Nodup
import DeclMacros.Proofs.Naming
import DeclMacros.Proofs.Printing
import DeclMacros.Proofs.Reading
import DeclMacros.Sample.Declaration

/-! # Accessors of variants

    Each variant of an enumeration gets a check, and an accessor for its payload if
    it has fields.  Two variants may ask for one name; then the later one gets
    nothing and is reported.

    The route: what one variant asks for is named by its name in snake case
    (`namedAfter_of_ofVariant`).  Walking the variants with the names that are taken
    marks each of them as served or not, and the marks depend only on the names of
    the earlier ones that are served (`exists_marks`); the names of those that are
    served never meet (`nodup_selectFree`).

    What the accessors answer is read off the pattern: its labels find the values of
    the fields in any order, and its bindings hand them on in declaration order
    (`payload?_own`).  That is what the functions of the program answer when they are
    called by their names (`call_checkMethod`, `call_payloadMethod`). -/

set_option autoImplicit false

namespace DeclMacros

open Text

namespace VariantAccess

/-! ## Names of one variant -/

/-- The identifiers of the accessors. -/
def idents (a : VariantAccess) : List Ident := a.check :: a.payload.toList

/-- The accessors of a variant are named by its name in snake case: the check with
    `is_` before it, and the payload accessor, which is there if the variant has a
    field, as it is or escaped.  A name is raw if it would not be read as one. -/
structure NamedAfter (a : VariantAccess) (v : Variant) : Prop where
  variant : a.variant = v
  check : a.check.text = "is_" ++ snakeCase v.name.text
  payload : a.payload.map Ident.text
    = if v.fields.list = [] then none else some (Ident.escapedText (snakeCase v.name.text))
  raw : ∀ i ∈ a.idents, i.raw = !Ident.readsAsName i.text

/-- A name that starts as a check does is none of the keywords that get an
    underscore. -/
theorem escapedText_check (text : String) : Ident.escapedText ("is_" ++ text) = "is_" ++ text := by
  have hstart : ∀ t ∈ Ident.suffixed, t.toList.head? ≠ some 'i' := by decide
  have hplain : "is_" ++ text ∉ Ident.suffixed := by
    intro hmem
    have hhead : "is_".toList = ['i', 's', '_'] := by decide
    refine hstart _ hmem ?_
    rw [String.toList_append, hhead, List.cons_append, List.head?_cons]
  rw [Ident.escapedText, if_neg hplain]

/-- What a variant asks for: a check, and a payload accessor if it has fields. -/
theorem ofVariant_eq_ok_iff {v : Variant} {a : VariantAccess} :
    ofVariant v = .ok a ↔ ∃ check,
      Ident.escaped ("is_" ++ snakeCase v.name.text) v.name.span = .ok check
        ∧ ((v.fields.list = [] ∧ a = ⟨v, check, none⟩)
          ∨ v.fields.list ≠ [] ∧ ∃ payload,
            Ident.escaped (snakeCase v.name.text) v.name.span = .ok payload
              ∧ a = ⟨v, check, some payload⟩) := by
  unfold ofVariant
  rw [bind_eq_ok_iff]
  refine exists_congr fun check => and_congr_right fun _ => ?_
  by_cases hfields : v.fields.list = []
  · rw [if_pos (List.isEmpty_iff.mpr hfields)]
    constructor
    · intro h
      exact .inl ⟨hfields, (Except.ok.inj h).symm⟩
    · rintro (⟨-, rfl⟩ | ⟨hne, -⟩)
      · rfl
      · exact absurd hfields hne
  · rw [if_neg (mt List.isEmpty_iff.mp hfields), bind_eq_ok_iff]
    constructor
    · rintro ⟨payload, hpayload, h⟩
      exact .inr ⟨hfields, payload, hpayload, (Except.ok.inj h).symm⟩
    · rintro (⟨hnone, -⟩ | ⟨-, payload, hpayload, rfl⟩)
      · exact absurd hnone hfields
      · exact ⟨payload, hpayload, rfl⟩

/-- The accessors that a variant asks for are named after it. -/
theorem namedAfter_of_ofVariant {v : Variant} {a : VariantAccess} (h : ofVariant v = .ok a) :
    a.NamedAfter v := by
  obtain ⟨check, hcheck, hpayload⟩ := ofVariant_eq_ok_iff.mp h
  obtain ⟨htext, hraw⟩ := Ident.text_of_escaped hcheck
  rw [escapedText_check] at htext
  rcases hpayload with ⟨hfields, rfl⟩ | ⟨hfields, payload, hpayload, rfl⟩
  · refine ⟨rfl, htext, (if_pos hfields).symm, ?_⟩
    intro i hi
    obtain rfl := List.mem_singleton.mp hi
    exact hraw
  · obtain ⟨htext', hraw'⟩ := Ident.text_of_escaped hpayload
    refine ⟨rfl, htext, ?_, ?_⟩
    · rw [if_neg hfields, Option.map_some, htext']
    · intro i hi
      rcases List.mem_cons.mp hi with rfl | hlater
      · exact hraw
      · obtain rfl := List.mem_singleton.mp hlater
        exact hraw'

/-- An escaped name is at most two characters longer when it is printed. -/
theorem length_display_escaped {i : Ident} {text : String} (htext : i.text = Ident.escapedText text)
    (hraw : i.raw = !Ident.readsAsName i.text) : i.display.length ≤ text.length + 2 := by
  unfold Ident.display
  by_cases hmem : text ∈ Ident.suffixed
  · -- what gets an underscore reads as a name with it, so it is not raw as well
    have hname : i.text = text ++ "_" := htext.trans (if_pos hmem)
    rw [hraw, hname, (Ident.readsAsName_suffixed hmem).2.1, Bool.not_true, if_neg Bool.false_ne_true,
      String.length_append]
    exact Nat.add_le_add_left (by decide) _
  · have hname : i.text = text := htext.trans (if_neg hmem)
    rw [hname]
    cases i.raw with
    | true =>
        rw [if_pos rfl, String.length_append, Nat.add_comm]
        exact Nat.le_refl _
    | false =>
        exact Nat.le_add_right _ _

/-- There is a payload accessor exactly if the variant has a field. -/
theorem NamedAfter.isSome_payload_iff {a : VariantAccess} {v : Variant} (h : a.NamedAfter v) :
    a.payload.isSome = true ↔ v.fields.list ≠ [] := by
  rw [← Option.isSome_map (f := Ident.text), h.payload]
  by_cases hfields : v.fields.list = []
  · simp [hfields]
  · simp [hfields]

/-- The two names of one variant differ, for the check is longer. -/
theorem NamedAfter.nodup_names {a : VariantAccess} {v : Variant} (h : a.NamedAfter v) :
    a.names.Nodup := by
  show ((a.check :: a.payload.toList).map Ident.display).Nodup
  have hpayload := h.payload
  cases hp : a.payload with
  | none => exact List.nodup_singleton _
  | some p =>
      rw [hp] at hpayload
      by_cases hfields : v.fields.list = []
      · rw [if_pos hfields] at hpayload
        exact nomatch hpayload
      · rw [if_neg hfields] at hpayload
        have hlong : (snakeCase v.name.text).length + 3 ≤ a.check.display.length := by
          have hcheck : a.check.text.length = 3 + (snakeCase v.name.text).length := by
            rw [h.check, String.length_append]
            rfl
          unfold Ident.display
          split
          · rw [String.length_append]
            omega
          · omega
        have hshort := length_display_escaped (Option.some.inj hpayload)
          (h.raw p (by rw [idents, hp]; exact List.mem_cons_of_mem _ (List.mem_singleton_self p)))
        have hne : a.check.display ≠ p.display := fun heq => by
          rw [heq] at hlong
          omega
        simpa using hne

/-- The functions of a variant bear the names of its accessors. -/
theorem map_name_functions (vis : Tokens) (a : VariantAccess) :
    (a.functions vis).map Function.name = a.idents := by
  unfold functions idents
  cases a.payload <;> rfl

end VariantAccess

namespace Accessors

/-! ## Selection by free names -/

/-- The marks say which variants are served: one is exactly when none of its names is
    a name of an earlier one that is. -/
def IsSelection (marked : List (VariantAccess × Bool)) : Prop :=
  ∀ before a served after, marked = before ++ (a, served) :: after →
    (served = true ↔ ∀ b, (b, true) ∈ before → ∀ n ∈ a.names, n ∉ b.names)

/-- The variants that are marked as served. -/
def served (marked : List (VariantAccess × Bool)) : List VariantAccess :=
  (marked.filter fun m => m.2).map Prod.fst

/-- The variants that are not. -/
def unserved (marked : List (VariantAccess × Bool)) : List VariantAccess :=
  (marked.filter fun m => !m.2).map Prod.fst

/-- The report that a variant gets no accessors. -/
def clash (a : VariantAccess) : Diagnostic := ⟨.duplicateAccessor, a.variant.name.span⟩

/-- Selection marks the variants.  The names that are taken before count as those of
    an earlier variant. -/
theorem exists_marks (taken : List String) (all : List VariantAccess) :
    ∃ marked, marked.map Prod.fst = all
      ∧ selectFree taken all = (served marked, (unserved marked).map clash)
      ∧ ∀ before a served after, marked = before ++ (a, served) :: after →
        (served = true ↔ ∀ n ∈ a.names, n ∉ taken
          ∧ ∀ b, (b, true) ∈ before → n ∉ b.names) := by
  induction all generalizing taken with
  | nil =>
      refine ⟨[], rfl, rfl, ?_⟩
      intro before a served after h
      exact absurd h.symm (List.append_ne_nil_of_right_ne_nil _ (List.cons_ne_nil _ _))
  | cons a rest ih =>
      by_cases hclash : a.names.any taken.contains = true
      · obtain ⟨marked, hall, hselect, hmarks⟩ := ih taken
        refine ⟨(a, false) :: marked, by rw [List.map_cons, hall], ?_, ?_⟩
        · rw [selectFree, if_pos hclash, hselect]
          rfl
        · intro before b served after h
          cases before with
          | nil =>
              obtain ⟨⟨rfl, rfl⟩, -⟩ := List.cons.inj h
              obtain ⟨n, hn, htaken⟩ := List.any_eq_true.mp hclash
              exact ⟨fun h => (nomatch h), fun hfree =>
                absurd (List.contains_iff_mem.mp htaken) (hfree n hn).1⟩
          | cons m before =>
              obtain ⟨rfl, htail⟩ := List.cons.inj h
              rw [hmarks before b served after htail]
              simp
      · obtain ⟨marked, hall, hselect, hmarks⟩ := ih (taken ++ a.names)
        refine ⟨(a, true) :: marked, by rw [List.map_cons, hall], ?_, ?_⟩
        · rw [selectFree, if_neg hclash, hselect]
          rfl
        · intro before b served after h
          cases before with
          | nil =>
              obtain ⟨⟨rfl, rfl⟩, -⟩ := List.cons.inj h
              refine ⟨fun _ n hn => ⟨fun htaken => hclash ?_, fun b hb => (nomatch hb)⟩, fun _ => rfl⟩
              exact List.any_eq_true.mpr ⟨n, hn, List.contains_iff_mem.mpr htaken⟩
          | cons m before =>
              obtain ⟨rfl, htail⟩ := List.cons.inj h
              rw [hmarks before b served after htail]
              refine forall₂_congr fun n _ => ?_
              simp [or_imp, forall_and, and_assoc]

/-- The names of the variants that are kept never meet, nor do they meet the names
    that are taken before. -/
theorem nodup_selectFree {taken : List String} {all : List VariantAccess} (htaken : taken.Nodup)
    (hall : ∀ a ∈ all, a.names.Nodup) :
    (taken ++ (selectFree taken all).1.flatMap VariantAccess.names).Nodup := by
  induction all generalizing taken with
  | nil => rwa [selectFree, List.flatMap_nil, List.append_nil]
  | cons a rest ih =>
      have hrest : ∀ b ∈ rest, b.names.Nodup := fun b hb => hall b (List.mem_cons_of_mem a hb)
      rw [selectFree]
      by_cases hclash : a.names.any taken.contains = true
      · -- the variant is left out, and its names stay free
        rw [if_pos hclash]
        exact ih htaken hrest
      · rw [if_neg hclash]
        show (taken ++ (a :: (selectFree (taken ++ a.names) rest).1).flatMap _).Nodup
        rw [List.flatMap_cons, ← List.append_assoc]
        refine ih ?_ hrest
        refine List.nodup_append.mpr ⟨htaken, hall a (List.mem_cons_self ..), ?_⟩
        rintro n hn m hm rfl
        exact hclash (List.any_eq_true.mpr ⟨n, hm, List.contains_iff_mem.mpr hn⟩)

/-! ## The whole enumeration -/

/-- What an enumeration expands to: nothing without variants, and else one block with
    the accessors whose names are free. -/
theorem expand_enum_cases {a : Attachment} {e : EnumDecl} {x : Expansion Accessors}
    (h : expand a (.enum e) = .ok x) :
    (e.variants = [] ∧ x = {}) ∨ ∃ all g, x.items = [g] ∧ g.target = ⟨e.name, e.generics⟩
      ∧ List.Forall₂ (fun v acc => VariantAccess.ofVariant v = .ok acc) e.variants.values all
      ∧ g.variants = (selectFree [] all).1 ∧ x.diagnostics = (selectFree [] all).2 := by
  unfold expand at h
  dsimp only at h
  by_cases hempty : e.variants.isEmpty = true
  · rw [if_pos hempty] at h
    exact .inl ⟨List.isEmpty_iff.mp hempty, (Except.ok.inj h).symm⟩
  · rw [if_neg hempty] at h
    cases hall : e.variants.values.mapM VariantAccess.ofVariant with
    | error c => rw [hall] at h; exact nomatch h
    | ok all =>
        rw [hall] at h
        cases h
        exact .inr ⟨all, _, rfl, rfl, (mapM_eq_ok_iff _ _ _).mp hall, rfl, rfl⟩

/-- The functions of the block bear the names of the accessors, in order. -/
theorem map_name_functions (g : Accessors) :
    g.functions.map Function.name = g.variants.flatMap VariantAccess.idents := by
  unfold functions
  rw [List.map_flatMap]
  exact congrArg (g.variants.flatMap ·) (funext fun a => a.map_name_functions g.vis)

/-- Every accessor stands for a variant of the enumeration. -/
theorem exists_of_mem_expand {a : Attachment} {e : EnumDecl} {x : Expansion Accessors}
    (h : expand a (.enum e) = .ok x) {g : Accessors} (hg : g ∈ x.items) {acc : VariantAccess}
    (hacc : acc ∈ g.variants) :
    ∃ v ∈ e.variants.values, VariantAccess.ofVariant v = .ok acc := by
  rcases expand_enum_cases h with ⟨-, rfl⟩ | ⟨all, g', hitems, -, hall, hkept, -⟩
  · exact nomatch hg
  · rw [hitems] at hg
    obtain rfl := List.mem_singleton.mp hg
    obtain ⟨marked, hmarked, hselect, -⟩ := exists_marks [] all
    have hmem : acc ∈ all := by
      rw [hkept, hselect] at hacc
      obtain ⟨m, hm, rfl⟩ := List.mem_map.mp hacc
      rw [← hmarked]
      exact List.mem_map_of_mem (List.mem_of_mem_filter hm)
    obtain ⟨v, hv, hofVariant⟩ := exists_mem_of_forall₂ hall hmem
    exact ⟨v, hv, hofVariant⟩

section Names

variable {a : Attachment} {e : EnumDecl} {x : Expansion Accessors} {g : Accessors}

/-- The accessors are for the enumeration. -/
theorem target_of_mem_expand (h : expand a (.enum e) = .ok x) (hg : g ∈ x.items) :
    g.target = ⟨e.name, e.generics⟩ := by
  rcases expand_enum_cases h with ⟨-, rfl⟩ | ⟨all, g', hitems, htarget, -⟩
  · exact absurd hg List.not_mem_nil
  · rw [hitems] at hg
    rwa [List.mem_singleton.mp hg]

/-- The names of all functions differ as they are printed. -/
theorem nodup_display (h : expand a (.enum e) = .ok x) (hg : g ∈ x.items) :
    (g.functions.map fun f => f.name.display).Nodup := by
  rcases expand_enum_cases h with ⟨-, rfl⟩ | ⟨all, g', hitems, -, hall, hkept, -⟩
  · exact absurd hg List.not_mem_nil
  rw [hitems] at hg
  obtain rfl := List.mem_singleton.mp hg
  have hnames : ∀ acc ∈ all, acc.names.Nodup := by
    intro acc hacc
    obtain ⟨v, -, hv⟩ := exists_mem_of_forall₂ hall hacc
    exact (VariantAccess.namedAfter_of_ofVariant hv).nodup_names
  have hkeep := nodup_selectFree List.nodup_nil hnames
  rw [List.nil_append, ← hkept] at hkeep
  have heq : g.functions.map (fun f => f.name.display)
      = g.variants.flatMap VariantAccess.names := by
    show g.functions.map (Ident.display ∘ Function.name) = _
    rw [← List.map_map, g.map_name_functions, List.map_flatMap]
    rfl
  rwa [heq]

/-- So do their texts, since the text of a name says how it is printed. -/
theorem nodup_text (h : expand a (.enum e) = .ok x) (hg : g ∈ x.items) :
    (g.functions.map fun f => f.name.text).Nodup := by
  refine List.Nodup.of_map (fun text => if !Ident.readsAsName text then "r#" ++ text else text) ?_
  rw [List.map_map]
  convert nodup_display h hg using 1
  refine List.map_congr_left fun f hf => ?_
  have hname : f.name ∈ g.variants.flatMap VariantAccess.idents := by
    rw [← g.map_name_functions]
    exact List.mem_map_of_mem hf
  obtain ⟨acc, hacc, hident⟩ := List.mem_flatMap.mp hname
  obtain ⟨v, -, hofVariant⟩ := exists_of_mem_expand h hg hacc
  have hraw := (VariantAccess.namedAfter_of_ofVariant hofVariant).raw f.name hident
  rw [Ident.display, hraw]
  rfl

end Names

/-- **No name is defined twice.**  If the variants of an enumeration can be expanded,
    they are marked as served or not: a variant is served exactly when none of its
    names is a name of an earlier one that is.  Those that are served get their
    accessors in declaration order, the others are reported in declaration order,
    each at its name, and the names of all functions that are printed differ, raw or
    not. -/
theorem serves_free_names (a : Attachment) (e : EnumDecl) (hvariants : e.variants ≠ [])
    (x : Expansion Accessors) (h : expand a (.enum e) = .ok x) :
    ∃ g marked, x.items = [g]
      ∧ g.tokens = g.code.tokens
      ∧ (g.code.methods e.name.text).map Method.function = g.functions
      ∧ List.Forall₂ (fun v m => m.1.NamedAfter v) e.variants.values marked
      ∧ IsSelection marked
      ∧ g.variants = served marked
      ∧ x.diagnostics = (unserved marked).map clash
      ∧ g.functions.map Function.name = g.variants.flatMap VariantAccess.idents
      ∧ (g.functions.map fun f => f.name.display).Nodup
      ∧ (g.functions.map fun f => f.name.text).Nodup := by
  rcases expand_enum_cases h with ⟨hnone, -⟩ | ⟨all, g, hitems, htarget, hall, hkept, hreports⟩
  · exact absurd hnone hvariants
  obtain ⟨marked, rfl, hselect, hmarks⟩ := exists_marks [] all
  have hg : g ∈ x.items := hitems ▸ List.mem_singleton_self g
  have hnamed : List.Forall₂ (fun v m => m.1.NamedAfter v) e.variants.values marked :=
    (List.forall₂_map_right_iff.mp hall).imp fun _ _ => VariantAccess.namedAfter_of_ofVariant
  have hmethods : g.code.methods e.name.text = g.methods := by
    have hown := g.methods_code
    rwa [htarget] at hown
  refine ⟨g, marked, hitems, g.tokens_eq_code, ?_, hnamed, ?_, ?_, ?_, g.map_name_functions,
    nodup_display h hg, nodup_text h hg⟩
  · rw [hmethods, g.functions_eq]
  · intro before acc got after hsplit
    rw [hmarks before acc got after hsplit]
    simp only [List.not_mem_nil, not_false_eq_true, true_and]
    exact ⟨fun hfree b hb n hn => hfree n hn b hb, fun hfree n hn b hb => hfree b hb n hn⟩
  · rw [hkept, hselect]
  · rw [hreports, hselect]

end Accessors

/-- Signals, two of which ask for names that earlier ones have.  The last one asks for
    a name that only such a signal asks for too. -/
def Sample.signal : Sample where
  source := "enum Signal \x7b HttpError(u8), Http_Error, Active, IsActive(u8), "
    ++ "Match \x7b code: u8 \x7d, Crate(u8), IsIsActive(u8) \x7d"

/-- The signals get the names that are free. -/
theorem Sample.signal_serves_free_names :
    ∃ e x g marked, Sample.signal.enum? = some e ∧ e.variants ≠ []
      ∧ Accessors.expand {} (.enum e) = .ok x ∧ x.items = [g]
      ∧ (g.functions.map fun f => f.name.display)
        = ["is_http_error", "http_error", "is_active", "is_match", "r#match", "is_crate", "crate_",
          "is_is_is_active", "is_is_active"]
      ∧ (x.diagnostics.map Diagnostic.span) = [.source 29 39, .source 49 57]
      ∧ List.Forall₂ (fun v m => m.1.NamedAfter v) e.variants.values marked
      ∧ Accessors.IsSelection marked
      ∧ g.variants = Accessors.served marked
      ∧ x.diagnostics = (Accessors.unserved marked).map Accessors.clash
      ∧ (g.functions.map fun f => f.name.text).Nodup := by
  have hcheck : (Sample.signal.enum?.any fun e => !e.variants.isEmpty
      && (Accessors.expand {} (.enum e)).toOption.any fun x => decide (
        (x.items.map fun g => g.functions.map fun f => f.name.display)
          = [["is_http_error", "http_error", "is_active", "is_match", "r#match", "is_crate",
            "crate_", "is_is_is_active", "is_is_active"]]
        ∧ (x.diagnostics.map Diagnostic.span) = [.source 29 39, .source 49 57])) = true := by
    decide +kernel
  obtain ⟨e, he, hall⟩ := (Option.any_eq_true _ _).mp hcheck
  obtain ⟨hempty, hexpands⟩ := Bool.and_eq_true_iff.mp hall
  obtain ⟨x, hx, hresult⟩ := (Option.any_eq_true _ _).mp hexpands
  obtain ⟨hfunctions, hspans⟩ := of_decide_eq_true hresult
  have hvariants : e.variants ≠ [] := by
    intro hnone
    rw [hnone] at hempty
    exact nomatch hempty
  obtain ⟨g, marked, hitems, -, -, hnamed, hmarks, hserved, hreports, -, -, hnodup⟩ :=
    Accessors.serves_free_names {} e hvariants x (eq_ok_of_toOption hx)
  rw [hitems] at hfunctions
  exact ⟨e, x, g, marked, he, hvariants, eq_ok_of_toOption hx, hitems, List.cons.inj hfunctions |>.1,
    hspans, hnamed, hmarks, hserved, hreports, hnodup⟩

/-! ## Values of an enumeration -/

/-- The names of the fields of a variant. -/
def Variant.labels (v : Variant) : List Ident := v.fields.list.filterMap Field.name

/-- The fields are written in braces. -/
def Fields.isNamed : Fields → Bool
  | .named .. => true
  | _ => false

/-- What a declaration keeps apart: the names of its variants, and the names of the
    fields of each variant, which all have one if they are written in braces. -/
structure EnumDecl.WellDeclared (e : EnumDecl) : Prop where
  variants : (e.variants.values.map fun v => v.name.text).Nodup
  labels : ∀ v ∈ e.variants.values, (v.labels.map Ident.text).Nodup
  labelled : ∀ v ∈ e.variants.values, v.fields.isNamed = true →
    v.labels.length = v.fields.list.length

instance EnumDecl.decidableWellDeclared (e : EnumDecl) : Decidable e.WellDeclared :=
  decidable_of_iff
    ((e.variants.values.map fun v => v.name.text).Nodup
      ∧ (∀ v ∈ e.variants.values, (v.labels.map Ident.text).Nodup)
      ∧ ∀ v ∈ e.variants.values, v.fields.isNamed = true →
        v.labels.length = v.fields.list.length)
    ⟨fun ⟨variants, labels, labelled⟩ => ⟨variants, labels, labelled⟩,
      fun h => ⟨h.variants, h.labels, h.labelled⟩⟩

/-- The values that a variant makes from values of its fields.  Fields in braces may
    be given in any order; without fields the variant is an empty tuple. -/
inductive Variant.Makes (w : Variant) (vs : List Value) : Value → Prop
  | record {entries : List (String × Value)} (hnamed : w.fields.isNamed = true)
      (hlength : vs.length = w.fields.list.length)
      (hentries : entries.Perm ((w.labels.map Ident.text).zip vs)) :
      w.Makes vs (.record w.name.text entries)
  | tuple (hnamed : w.fields.isNamed = false) (hlength : vs.length = w.fields.list.length) :
      w.Makes vs (.tuple w.name.text vs)

namespace Variant.Makes

variable {w : Variant} {vs : List Value} {value : Value}

/-- A value has as many fields as its variant. -/
theorem length_eq (h : w.Makes vs value) : vs.length = w.fields.list.length := by
  cases h with
  | record _ hlength _ => exact hlength
  | tuple _ hlength => exact hlength

/-- A value bears the name of its variant. -/
theorem tag?_eq (h : w.Makes vs value) : value.tag? = some w.name.text := by
  cases h <;> rfl

end Variant.Makes

/-! ## What the accessors answer -/

section Lookup

variable {α β : Type}

/-- A list is looked up whole if each of its elements is found. -/
theorem mapM_eq_some_of_forall₂ {f : α → Option β} {xs : List α} {ys : List β}
    (h : List.Forall₂ (fun x y => f x = some y) xs ys) : xs.mapM f = some ys := by
  induction h with
  | nil => rfl
  | cons hxy _ ih =>
      rw [List.mapM_cons, hxy, ih]
      rfl

/-- An entry is found under its key, if keys differ. -/
theorem lookup_of_mem {entries : List (String × β)} (hkeys : (entries.map Prod.fst).Nodup)
    {k : String} {v : β} (hmem : (k, v) ∈ entries) : entries.lookup k = some v := by
  induction entries with
  | nil => exact nomatch hmem
  | cons e rest ih =>
      rw [List.map_cons, List.nodup_cons] at hkeys
      rcases List.mem_cons.mp hmem with rfl | hlater
      · exact List.lookup_cons_self
      · have hne : (k == e.1) = false := by
          rw [beq_eq_false_iff_ne]
          intro heq
          exact hkeys.1 (heq ▸ List.mem_map_of_mem hlater)
        rw [List.lookup_cons, hne]
        exact ih hkeys.2 hlater

/-- What keys stand for is found under each of them, in whatever order the entries
    are. -/
theorem forall₂_lookup {keys : List String} {vs : List β} {entries : List (String × β)}
    (hkeys : keys.Nodup) (hlength : keys.length = vs.length)
    (hentries : entries.Perm (keys.zip vs)) :
    List.Forall₂ (fun k v => entries.lookup k = some v) keys vs := by
  have hnodup : (entries.map Prod.fst).Nodup := by
    rw [(hentries.map Prod.fst).nodup_iff, List.map_fst_zip (Nat.le_of_eq hlength)]
    exact hkeys
  refine List.forall₂_iff_zip.mpr ⟨hlength, ?_⟩
  intro k v hmem
  exact lookup_of_mem hnodup (hentries.mem_iff.mpr hmem)

end Lookup

namespace VariantAccess

/-- The names to which fields are bound differ. -/
theorem nodup_bindings (a : VariantAccess) : (a.bindings.map Ident.text).Nodup := by
  rw [bindings, List.map_map]
  refine List.Nodup.map ?_ List.nodup_range
  intro i j hij
  exact Text.toString_nat_injective (String.append_right_inj "__" |>.mp hij)

/-- There is one binding for each field. -/
theorem length_bindings (a : VariantAccess) : a.bindings.length = a.variant.fields.list.length := by
  rw [bindings, List.length_map, List.length_range]

/-- Labels find the values of the fields and bind them to names. -/
theorem bind?_named {labels names : List Ident} {entries : List (String × Value)} {vs : List Value}
    (hlookup : List.Forall₂ (fun l v => entries.lookup l.text = some v) labels vs)
    (hlength : names.length = labels.length) (name : String) :
    (FieldPattern.named (labels.zip names)).bind? (.record name entries)
      = some ((names.map Ident.text).zip vs) := by
  refine mapM_eq_some_of_forall₂ ?_
  induction hlookup generalizing names with
  | nil =>
      rw [List.zip_nil_right]
      exact .nil
  | @cons l v labels vs hl _ ih =>
      cases names with
      | nil => exact nomatch hlength
      | cons n names =>
          refine .cons ?_ (ih (Nat.succ.inj hlength))
          simp only [hl, Option.map_some]

/-- The pattern follows the way in which the fields are written. -/
theorem pattern_eq (a : VariantAccess) :
    a.pattern = if a.variant.fields.isNamed then .named (a.variant.labels.zip a.bindings)
      else .tuple a.bindings := by
  rw [pattern, Variant.labels]
  cases a.variant.fields <;> rfl

/-- The pattern of a variant binds its names to the values of the fields, in
    declaration order. -/
theorem bind?_pattern (a : VariantAccess) {vs : List Value} {value : Value}
    (hlabels : (a.variant.labels.map Ident.text).Nodup)
    (hlabelled : a.variant.fields.isNamed = true →
      a.variant.labels.length = a.variant.fields.list.length)
    (hmakes : a.variant.Makes vs value) :
    a.pattern.bind? value = some ((a.bindings.map Ident.text).zip vs) := by
  rw [a.pattern_eq]
  cases hmakes with
  | record hnamed hlength hentries =>
      have hall := hlabelled hnamed
      have hlookup := forall₂_lookup hlabels (by rw [List.length_map, hall, hlength]) hentries
      rw [if_pos hnamed]
      exact bind?_named (List.forall₂_map_left_iff.mp hlookup) (by rw [a.length_bindings, hall]) _
  | tuple hnamed hlength =>
      rw [hnamed, if_neg Bool.false_ne_true]
      exact if_pos (by rw [a.length_bindings, hlength])

/-- The payload accessor finds the fields of its own variant. -/
theorem payload?_own (a : VariantAccess) {vs : List Value} {value : Value}
    (hlabels : (a.variant.labels.map Ident.text).Nodup)
    (hlabelled : a.variant.fields.isNamed = true →
      a.variant.labels.length = a.variant.fields.list.length)
    (hmakes : a.variant.Makes vs value) : a.payload? value = some (payloadOf vs) := by
  have hholds : a.holds value = true := by
    rw [holds, hmakes.tag?_eq]
    exact beq_self_eq_true _
  have hbound : a.bindings.mapM (fun name =>
      ((a.bindings.map Ident.text).zip vs).lookup name.text) = some vs := by
    have hlength : (a.bindings.map Ident.text).length = vs.length := by
      rw [List.length_map, a.length_bindings, hmakes.length_eq]
    -- the names that are bound are numbered, so they differ
    have hlookup := forall₂_lookup a.nodup_bindings hlength (List.Perm.refl _)
    exact mapM_eq_some_of_forall₂ (List.forall₂_map_left_iff.mp hlookup)
  rw [payload?, if_pos hholds, a.bind?_pattern hlabels hlabelled hmakes]
  show Option.bind (a.bindings.mapM fun name =>
    ((a.bindings.map Ident.text).zip vs).lookup name.text) _ = _
  rw [hbound]
  rfl

end VariantAccess

/-! ## Meaning of the accessors -/

/-- The first function of a name is the one that has it, if names differ. -/
theorem Method.find?_of_mem {ms : List Method} (hnames : (ms.map fun m => m.name.text).Nodup)
    {m : Method} (hm : m ∈ ms) : ms.find? (fun m' => m'.name.text = m.name.text) = some m := by
  cases hfound : ms.find? fun m' => m'.name.text = m.name.text with
  | none => exact absurd (decide_eq_true rfl) (List.find?_eq_none.mp hfound m hm)
  | some m' =>
      have hsame : m'.name.text = m.name.text := by simpa using List.find?_some hfound
      exact congrArg some
        (List.inj_on_of_nodup_map hnames (List.mem_of_find?_eq_some hfound) hm hsame)

/-- Names that are all bound have values. -/
theorem Scope.mapM_valueOf {scope : Scope} {names : List Ident} {vs : List Value}
    (h : names.mapM (fun name => scope.names.lookup name.text) = some vs) :
    names.mapM scope.valueOf = .ok vs := by
  induction names generalizing vs with
  | nil =>
      cases h
      rfl
  | cons name names ih =>
      rw [List.mapM_cons] at h
      obtain ⟨v, hv, hrest⟩ := Option.bind_eq_some_iff.mp h
      obtain ⟨rest, hnames, hvs⟩ := Option.bind_eq_some_iff.mp hrest
      cases hvs
      rw [List.mapM_cons, Scope.valueOf_eq hv, ih hnames]
      rfl

namespace VariantAccess

section Calls

variable (s : Surroundings) (call : String → String → List Value → Except Halt Value)
  (type : String) (vis : Tokens) (a : VariantAccess)

/-- The check answers whether the value is of its variant. -/
theorem call_checkMethod (value : Value) :
    (a.checkMethod vis).call s call type (some value) [] = .ok (.flag (a.holds value)) := by
  rw [Method.call, if_pos ⟨rfl, rfl⟩]
  rfl

/-- The payload accessor answers with what it finds, and with nothing for other variants. -/
theorem call_payloadMethod (name : Ident) {value : Value}
    (h : a.holds value = true → (a.payload? value).isSome = true) :
    (a.payloadMethod vis name).call s call type (some value) []
      = .ok ((a.payload? value).elim .absent .present) := by
  rw [Method.call, if_pos ⟨rfl, rfl⟩, payloadMethod, Body.eval, Scope.receiver_eq rfl]
  by_cases hholds : a.holds value = true
  · have htag : value.tag? = some a.variant.name.text := beq_iff_eq.mp hholds
    -- what the accessor finds is what the pattern binds, read off name by name
    obtain ⟨found, hfound⟩ := Option.isSome_iff_exists.mp (h hholds)
    have hparts := hfound
    rw [payload?, if_pos hholds] at hparts
    obtain ⟨bound, hbound, hparts⟩ := Option.bind_eq_some_iff.mp hparts
    obtain ⟨vs, hvs, hvalue⟩ := Option.bind_eq_some_iff.mp hparts
    cases hvalue
    simp only [bind, Except.bind, htag, if_true, hbound]
    rw [Scope.mapM_valueOf hvs, hfound]
    rfl
  · have htag : ¬ value.tag? = some a.variant.name.text := fun h => hholds (beq_iff_eq.mpr h)
    have hnone : a.payload? value = none := by rw [payload?, if_neg hholds]
    simp only [bind, Except.bind, if_neg htag, hnone]
    rfl

end Calls

/-- A value is taken for one of the variant exactly if the variant makes it. -/
theorem holds_iff {e : EnumDecl} {a : VariantAccess} {w : Variant} {vs : List Value} {value : Value}
    (he : e.WellDeclared) (hv : a.variant ∈ e.variants.values) (hw : w ∈ e.variants.values)
    (hmakes : w.Makes vs value) : a.holds value = true ↔ w = a.variant := by
  rw [holds, hmakes.tag?_eq, beq_iff_eq, Option.some.injEq]
  constructor
  · -- variants of one name are one variant
    intro hname
    exact List.inj_on_of_nodup_map he.variants hw hv hname
  · rintro rfl
    rfl

end VariantAccess

namespace Accessors

section Calls

variable {a : Attachment} {e : EnumDecl} {x : Expansion Accessors} {g : Accessors}
  {acc : VariantAccess} (h : expand a (.enum e) = .ok x) (hg : g ∈ x.items)
  (hacc : acc ∈ g.variants)

include h hg hacc

/-- In the program a function of a variant is found under its name. -/
theorem find?_method {m : Method} (hm : m ∈ acc.methods g.vis) :
    (g.code.methods e.name.text).find? (fun m' => m'.name.text = m.name.text) = some m := by
  have hmethods : g.code.methods e.name.text = g.methods := by
    have hown := g.methods_code
    rwa [target_of_mem_expand h hg] at hown
  -- no other function of the block has the name, so the first one found is the function
  have htexts := nodup_text h hg
  rw [g.functions_eq, List.map_map] at htexts
  rw [hmethods]
  exact Method.find?_of_mem htexts (List.mem_flatMap.mpr ⟨acc, hacc, hm⟩)

theorem find?_payloadMethod {name : Ident} (hname : acc.payload = some name) :
    (g.code.methods e.name.text).find? (fun m => m.name.text = name.text)
      = some (acc.payloadMethod g.vis name) := by
  refine find?_method h hg hacc (m := acc.payloadMethod g.vis name) (List.mem_cons_of_mem _ ?_)
  rw [hname]
  exact List.mem_singleton_self _

/-- So the program answers the check as the variant's accessors do, -/
theorem call_check (s : Surroundings) (value : Value) :
    g.code.call s e.name.text acc.check.text (some value) []
      = .ok (.flag (acc.holds value)) := by
  have hfound : (g.code.methods e.name.text).find? (fun m => m.name.text = acc.check.text)
      = some (acc.checkMethod g.vis) := find?_method h hg hacc (List.mem_cons_self ..)
  rw [Program.call, Method.callNamed, hfound]
  exact acc.call_checkMethod s _ _ g.vis value

/-- and the call of the payload accessor. -/
theorem call_payload (s : Surroundings) {name : Ident} (hname : acc.payload = some name)
    {value : Value} (hfinds : acc.holds value = true → (acc.payload? value).isSome = true) :
    g.code.call s e.name.text name.text (some value) []
      = .ok ((acc.payload? value).elim .absent .present) := by
  rw [Program.call, Method.callNamed, find?_payloadMethod h hg hacc hname]
  exact acc.call_payloadMethod s _ _ g.vis name hfinds

end Calls

end Accessors

/-- **What the accessors answer.**  In an enumeration that keeps its names apart, take
    the accessors of a variant and a value that any variant makes.  What is printed is
    a program.  Its check answers true exactly for the values of its own variant.
    There is a payload accessor exactly if the variant has a field, and it returns an
    optional value of references to the declared types; it answers with the values of
    the fields in declaration order, and with nothing for a value of another
    variant. -/
theorem Accessors.answers_by_variant (s : Surroundings) {a : Attachment} {e : EnumDecl}
    {x : Expansion Accessors} (he : e.WellDeclared) (h : Accessors.expand a (.enum e) = .ok x)
    {g : Accessors} (hg : g ∈ x.items) {acc : VariantAccess} (hacc : acc ∈ g.variants) :
    g.tokens = g.code.tokens
      ∧ acc.variant ∈ e.variants.values
      ∧ (acc.payload.isSome = true ↔ acc.variant.fields.list ≠ [])
      ∧ (∀ name, acc.payload = some name → ∃ m,
        (g.code.methods e.name.text).find? (fun m => m.name.text = name.text) = some m
          ∧ m.output = optionTokens (.tupleOf
            (acc.variant.fields.list.map fun f => Tokens.op "&" ++ f.ty.tokens)))
      ∧ ∀ w ∈ e.variants.values, ∀ vs value, w.Makes vs value →
        vs.length = w.fields.list.length
          ∧ (w = acc.variant →
            g.code.call s e.name.text acc.check.text (some value) [] = .ok (.flag true)
              ∧ ∀ name, acc.payload = some name →
                g.code.call s e.name.text name.text (some value) []
                  = .ok (.present (VariantAccess.payloadOf vs)))
          ∧ (w ≠ acc.variant →
            g.code.call s e.name.text acc.check.text (some value) [] = .ok (.flag false)
              ∧ ∀ name, acc.payload = some name →
                g.code.call s e.name.text name.text (some value) [] = .ok .absent) := by
  obtain ⟨v, hv, hofVariant⟩ := exists_of_mem_expand h hg hacc
  have hnamed := VariantAccess.namedAfter_of_ofVariant hofVariant
  obtain rfl := hnamed.variant
  refine ⟨g.tokens_eq_code, hv, hnamed.isSome_payload_iff,
    fun name hname => ⟨_, find?_payloadMethod h hg hacc hname, rfl⟩, ?_⟩
  intro w hw vs value hmakes
  have hholds := VariantAccess.holds_iff he hv hw hmakes
  have hown (hsame : w = acc.variant) : acc.payload? value = some (VariantAccess.payloadOf vs) :=
    acc.payload?_own (he.labels _ hv) (he.labelled _ hv) (hsame ▸ hmakes)
  have hfinds (htrue : acc.holds value = true) : (acc.payload? value).isSome = true := by
    rw [hown (hholds.mp htrue)]
    rfl
  refine ⟨hmakes.length_eq, ?_, ?_⟩
  · intro hsame
    rw [call_check h hg hacc, hholds.mpr hsame]
    refine ⟨rfl, ?_⟩
    intro name hname
    rw [call_payload h hg hacc s hname hfinds, hown hsame]
    rfl
  · intro hne
    have hother : ¬ acc.holds value = true := mt hholds.mp hne
    rw [call_check h hg hacc, Bool.eq_false_iff.mpr hother]
    refine ⟨rfl, ?_⟩
    intro name hname
    rw [call_payload h hg hacc s hname hfinds, VariantAccess.payload?, if_neg hother]
    rfl

/-- A failure is found by its payload accessor whatever order its fields are given in,
    and not by that of a success. -/
theorem Sample.response_answers_by_variant :
    ∃ e x g, ∃ success ∈ g.variants, ∃ failure ∈ g.variants, ∃ value,
      Sample.response.enum? = some e ∧ e.WellDeclared
      ∧ Accessors.expand {} (.enum e) = .ok x ∧ g ∈ x.items
      ∧ value = .record "Failure" [("reason", .text "gone"), ("code", .number 410)]
      ∧ failure.variant.Makes [.number 410, .text "gone"] value
      ∧ failure.check.text = "is_failure" ∧ success.payload.map Ident.text = some "success"
      ∧ g.code.call Sample.surroundings e.name.text "is_failure" (some value) []
        = .ok (.flag true)
      ∧ g.code.call Sample.surroundings e.name.text "failure" (some value) []
        = .ok (.present (.tuple "" [.number 410, .text "gone"]))
      ∧ g.code.call Sample.surroundings e.name.text "success" (some value) [] = .ok .absent := by
  have hcheck : (Sample.response.enum?.any fun e => decide e.WellDeclared
      && (Accessors.expand {} (.enum e)).toOption.any fun x =>
        x.items.head?.any fun g => g.variants[0]?.any fun success => g.variants[1]?.any fun failure =>
          decide (success.variant.name.text = "Success" ∧ failure.variant.name.text = "Failure"
            ∧ failure.variant.fields.isNamed = true
            ∧ failure.variant.fields.list.length = 2
            ∧ failure.variant.labels.map Ident.text = ["code", "reason"]
            ∧ failure.check.text = "is_failure"
            ∧ failure.payload.map Ident.text = some "failure"
            ∧ success.payload.map Ident.text = some "success")) = true := by
    decide +kernel
  obtain ⟨e, he, hall⟩ := (Option.any_eq_true _ _).mp hcheck
  obtain ⟨hdeclared, hexpands⟩ := Bool.and_eq_true_iff.mp hall
  obtain ⟨x, hx, hresult⟩ := (Option.any_eq_true _ _).mp hexpands
  obtain ⟨g, hg, hresult⟩ := (Option.any_eq_true _ _).mp hresult
  obtain ⟨success, hsuccess, hresult⟩ := (Option.any_eq_true _ _).mp hresult
  obtain ⟨failure, hfailure, hresult⟩ := (Option.any_eq_true _ _).mp hresult
  obtain ⟨hother, hname, hnamed, hlength, hlabels, hcheck, hfound, hmissed⟩ :=
    of_decide_eq_true hresult
  have hdeclared := of_decide_eq_true hdeclared
  have hx := eq_ok_of_toOption hx
  have hg := List.mem_of_head? hg
  have hsuccess := List.mem_of_getElem? hsuccess
  have hfailure := List.mem_of_getElem? hfailure
  have hmakes : failure.variant.Makes [.number 410, .text "gone"]
      (.record "Failure" [("reason", .text "gone"), ("code", .number 410)]) := by
    rw [← hname]
    refine .record hnamed hlength.symm ?_
    rw [hlabels]
    exact .swap ..
  obtain ⟨-, hvariant, -, -, hanswers⟩ :=
    Accessors.answers_by_variant Sample.surroundings hdeclared hx hg hfailure
  obtain ⟨-, -, -, -, hsuccessAnswers⟩ :=
    Accessors.answers_by_variant Sample.surroundings hdeclared hx hg hsuccess
  obtain ⟨-, hown, -⟩ := hanswers _ hvariant _ _ hmakes
  obtain ⟨-, -, hnothing⟩ := hsuccessAnswers _ hvariant _ _ hmakes
  obtain ⟨payload, hpayload, hpayloadText⟩ := Option.map_eq_some_iff.mp hfound
  obtain ⟨other, hotherPayload, hotherText⟩ := Option.map_eq_some_iff.mp hmissed
  have hne : failure.variant ≠ success.variant := by
    intro hsame
    rw [hsame, hother] at hname
    exact absurd hname (by decide)
  refine ⟨e, x, g, success, hsuccess, failure, hfailure, _, he, hdeclared, hx, hg, rfl, hmakes,
    hcheck, hmissed, ?_, ?_, ?_⟩
  · rw [← hcheck]
    exact (hown rfl).1
  · rw [← hpayloadText]
    exact (hown rfl).2 payload hpayload
  · rw [← hotherText]
    exact (hnothing hne).2 other hotherPayload

end DeclMacros
