import DeclMacros.Proofs.Building
import DeclMacros.Proofs.Runs

/-! # What a run generates for a structure

    A run expands the macros of a structure one after the other, each on what the one before it
    left.  None of them sees the others: all that is generated is generated from the properties
    of the declaration as it is written (`Item.isFor_of_mem_generated`).

    So it is known which functions the program of the run has for the structure itself: those of
    constructors, and one for each builder and each conversion (`Item.methods_code`). -/

set_option autoImplicit false

namespace DeclMacros

/-! ## One expansion -/

/-- A constructor is made for a structure with these properties. -/
structure Constructor.IsFor (s : StructDecl) (ps : List Property) (c : Constructor) : Prop where
  target : c.target = ⟨s.name, s.generics⟩
  params : c.params = c.kind.parameters (Property.typed ps)
  phantoms : c.phantoms = Property.phantoms ps

/-- A conversion is made for a structure with these properties. -/
structure Conversion.IsFor (s : StructDecl) (ps : List Property) (c : Conversion) : Prop where
  target : c.target = ⟨s.name, s.generics⟩
  values : c.values = (Property.typed ps).filterMap Property.conversion?
  phantoms : c.phantoms = Property.phantoms ps

/-- A macro generates this for a structure with these properties. -/
def Generated.IsFor (s : StructDecl) (ps : List Property) (m : AttachedMacro) : Generated → Prop
  | .constructor c => m = c.kind.attached ∧ c.IsFor s ps
  | .builder b => b.IsFor s ps
  | .conversion c => c.IsFor s ps
  | .accessors _ | .wrapper _ => False

/-- An expansion that is packed comes from one of the macro itself. -/
theorem exists_of_packed {α : Type} {f : α → Generated} {x : Except Crash (Expansion α)}
    {e : Expansion Generated} (h : (x >>= fun e => pure (e.map f)) = .ok e) :
    ∃ inner, x = .ok inner ∧ e = inner.map f := by
  cases x with
  | error crash => cases h
  | ok inner => exact ⟨inner, rfl, (Except.ok.inj h).symm⟩

/-- What a packed expansion generates was packed. -/
theorem exists_of_mem_packed {α : Type} {f : α → Generated} {x : Except Crash (Expansion α)}
    {e : Expansion Generated} {g : Generated} (h : (x >>= fun e => pure (e.map f)) = .ok e)
    (hg : g ∈ e.items) : ∃ inner, x = .ok inner ∧ ∃ y ∈ inner.items, f y = g := by
  obtain ⟨inner, hinner, rfl⟩ := exists_of_packed h
  exact ⟨inner, hinner, List.mem_map.mp hg⟩

section Expansion

variable {s : StructDecl} {ps : List Property}

/-- A constructor is made from the properties. -/
theorem Constructor.isFor_of_mem_expand (hread : (Item.struct s).properties = .ok ps)
    {kind : ConstructorKind} {a : Attachment} {e : Expansion Constructor} {c : Constructor}
    (h : Constructor.expand kind a (.struct s) = .ok e) (hc : c ∈ e.items) :
    c.kind = kind ∧ c.IsFor s ps := by
  obtain ⟨hgenerated, -⟩ := of_mem_expandStruct hread h hc
  rw [← Except.ok.inj hgenerated]
  exact ⟨rfl, rfl, rfl, rfl⟩

/-- A conversion is made from the properties. -/
theorem Conversion.isFor_of_mem_expand (hread : (Item.struct s).properties = .ok ps)
    {a : Attachment} {e : Expansion Conversion} {c : Conversion}
    (h : Conversion.expand a (.struct s) = .ok e) (hc : c ∈ e.items) : c.IsFor s ps := by
  unfold Conversion.expand at h
  cases hsource : a.source with
  | none =>
      rw [hsource] at h
      rw [← Except.ok.inj h] at hc
      exact absurd hc List.not_mem_nil
  | some source =>
      rw [hsource] at h
      obtain ⟨hgenerated, -⟩ := of_mem_expandStruct hread h hc
      rw [← Except.ok.inj hgenerated]
      exact ⟨rfl, rfl, rfl⟩

/-- Whatever a macro generates for a structure is made from the properties. -/
theorem AttachedMacro.isFor_of_mem_expand (hread : (Item.struct s).properties = .ok ps)
    {m : AttachedMacro} {a : Attachment} {e : Expansion Generated} {g : Generated}
    (h : m.expand a (.struct s) = .ok e) (hg : g ∈ e.items) : g.IsFor s ps m := by
  cases m with
  | constructor =>
      obtain ⟨inner, hinner, c, hc, rfl⟩ := exists_of_mem_packed h hg
      obtain ⟨hkind, hfor⟩ := Constructor.isFor_of_mem_expand hread hinner hc
      refine ⟨?_, hfor⟩
      rw [hkind]
      rfl
  | stub =>
      obtain ⟨inner, hinner, c, hc, rfl⟩ := exists_of_mem_packed h hg
      obtain ⟨hkind, hfor⟩ := Constructor.isFor_of_mem_expand hread hinner hc
      refine ⟨?_, hfor⟩
      rw [hkind]
      rfl
  | builder =>
      obtain ⟨inner, hinner, b, hb, rfl⟩ := exists_of_mem_packed h hg
      obtain ⟨hgenerated, -⟩ := of_mem_expandStruct hread hinner hb
      exact Builder.isFor_ofTarget hgenerated
  | conversion =>
      obtain ⟨inner, hinner, c, hc, rfl⟩ := exists_of_mem_packed h hg
      exact Conversion.isFor_of_mem_expand hread hinner hc
  | _ =>
      -- these are for other items, and report that
      obtain ⟨inner, hinner, y, hy, -⟩ := exists_of_mem_packed h hg
      rw [← Except.ok.inj hinner] at hy
      exact absurd hy List.not_mem_nil

end Expansion

/-! ## The whole run -/

namespace Item

section Run

variable {s : StructDecl} {ps : List Property}

/-- What a run generates is generated in one of its turns, from the declaration as it is
    written. -/
theorem exists_turn_of_mem_generated (hread : (Item.struct s).properties = .ok ps) {g : Generated}
    (hg : g ∈ (Item.struct s).generated) :
    (∃ steps, (Item.struct s).steps = .ok steps) ∧ ∃ t ∈ Turn.schedule s.attrs, ∃ a e,
      t.attached.expand a (.struct { s with attrs := t.remaining }) = .ok e ∧ g ∈ e.items := by
  rw [Item.generated] at hg
  cases hrun : (Item.struct s).steps with
  | error crash =>
      rw [hrun] at hg
      exact absurd hg List.not_mem_nil
  | ok steps =>
      rw [hrun] at hg
      obtain ⟨step, hstep, hmem⟩ := List.mem_flatMap.mp hg
      -- the step comes to what its turn comes to on the declaration as it is written
      have hcontent := Item.steps_content hread
      rw [hrun] at hcontent
      obtain ⟨t, ht, hturn⟩ := exists_mem_of_forall₂ ((mapM_eq_ok_iff _ _ _).mp hcontent.symm)
        (List.mem_map_of_mem hstep)
      refine ⟨⟨steps, rfl⟩, t, ht, ?_⟩
      cases hoc : step.applied.outcome with
      | error f =>
          rw [hoc] at hmem
          exact absurd hmem List.not_mem_nil
      | ok e' =>
          rw [hoc] at hmem
          have hout : step.content.outcome = .ok e'.content := by
            show step.applied.outcome.map Expansion.content = _
            rw [hoc]
            rfl
          rcases Turn.contentOn_cases hturn with ⟨f, -, hfault⟩ | ⟨a, e, -, hexpand, hok⟩
          · rw [hout] at hfault
            cases hfault
          · have hitems : e'.items = e.items :=
              congrArg Prod.fst (Except.ok.inj (hout.symm.trans hok))
            exact ⟨a, e, hexpand, hitems ▸ hmem⟩

/-- Whatever a run generates is made from the properties, by a macro that is attached. -/
theorem isFor_of_mem_generated (hread : (Item.struct s).properties = .ok ps) {g : Generated}
    (hg : g ∈ (Item.struct s).generated) :
    ∃ m : AttachedMacro, m.isAmong s.attrs = true ∧ g.IsFor s ps m := by
  obtain ⟨-, t, ht, a, e, hexpand, hmem⟩ := exists_turn_of_mem_generated hread hg
  -- the properties are those of the fields, whatever is attached to the structure
  have hread' : (Item.struct { s with attrs := t.remaining }).properties = .ok ps := hread
  obtain ⟨hattr, hattached⟩ := Turn.mem_schedule ht
  have hfor := AttachedMacro.isFor_of_mem_expand hread' hexpand hmem
  refine ⟨t.attached, AttachedMacro.isAmong_iff.mpr ⟨t.attr, hattr, hattached⟩, ?_⟩
  cases g with
  | constructor c => exact ⟨hfor.1, hfor.2.target, hfor.2.params, hfor.2.phantoms⟩
  | builder b => exact ⟨hfor.fields, hfor.target, hfor.phantoms, hfor.name⟩
  | conversion c => exact ⟨hfor.target, hfor.values, hfor.phantoms⟩
  | accessors => exact hfor
  | wrapper => exact hfor

/-- A constructor in a run is made by a macro that is attached. -/
theorem constructor_of_mem_generated (hread : (Item.struct s).properties = .ok ps)
    {c : Constructor} (hc : Generated.constructor c ∈ (Item.struct s).generated) :
    c.kind.attached.isAmong s.attrs = true ∧ c.IsFor s ps := by
  obtain ⟨m, hamong, rfl, hfor⟩ := isFor_of_mem_generated hread hc
  exact ⟨hamong, hfor⟩

/-- A builder in a run is made from the properties. -/
theorem builder_of_mem_generated (hread : (Item.struct s).properties = .ok ps)
    {b : Builder} (hb : Generated.builder b ∈ (Item.struct s).generated) : b.IsFor s ps := by
  obtain ⟨m, -, hfor⟩ := isFor_of_mem_generated hread hb
  exact hfor

end Run

end Item

/-! ## The functions of the structure -/

/-- The functions that are generated for the type of a structure itself. -/
def Generated.ownMethods : Generated → List Method
  | .constructor c => c.methods
  | .builder b => [b.entryMethod]
  | .conversion c => [c.fromRaw]
  | .accessors _ | .wrapper _ => []

section Methods

variable {s : StructDecl} {ps : List Property}

/-- They are those in the program of what is generated. -/
theorem Generated.methods_code {g : Generated} {m : AttachedMacro} (h : g.IsFor s ps m) :
    g.code.methods s.name.text = g.ownMethods := by
  cases g with
  | constructor c =>
      refine Constructor.methods_code ?_
      rw [h.2.target]
  | builder b =>
      -- the builder is another type, and its own functions are not the structure's
      have hmethods := Builder.methods_code_target (Builder.IsFor.name_ne_target h)
      rwa [h.target] at hmethods
  | conversion c =>
      have hmethods := c.methods_code
      rwa [h.target] at hmethods
  | accessors => exact h.elim
  | wrapper => exact h.elim

/-- **The functions of a structure.**  The program of a run has those functions for the structure
    that what is generated has for it, in the order of the run. -/
theorem Item.methods_code (hread : (Item.struct s).properties = .ok ps) :
    (Item.struct s).code.methods s.name.text
      = (Item.struct s).generated.flatMap Generated.ownMethods := by
  rw [Item.code, Program.methods_flatMap]
  refine List.flatMap_congr ?_
  intro g hg
  obtain ⟨m, -, hfor⟩ := Item.isFor_of_mem_generated hread hg
  exact Generated.methods_code hfor

end Methods

end DeclMacros
