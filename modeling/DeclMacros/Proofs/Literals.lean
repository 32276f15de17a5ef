import Mathlib.Data.Prod.Basic
import DeclMacros.Proofs.Construction

/-! # Structure literals are complete

    Four macros end in a literal of the structure, and each puts it together from
    two lists: one made from the properties that hold data, and one of the names of
    the fields that hold none.  This file shows that for a structure all of whose
    fields have a name and a type the two lists share the fields out.

    The route: the structure can be read, and fields and properties go together one
    by one, so each list is the properties of one part of the fields
    (`forall₂_dataFields`, `phantoms_eq_phantomFields`).  A literal that is put
    together from both is complete whatever its values are (`Complete.of_forall₂`).
    The literals of a program are those that its functions return; the program of a
    constructor, of a conversion and of a builder have the ones that they are meant to
    have and no others (`Program.literals`).  Nothing is reported about such a
    structure, so each macro does emit its program (`expandStruct_wellDeclared`). -/

set_option autoImplicit false

namespace DeclMacros

/-! ## Fields with and without data -/

namespace StructDecl

/-- The fields that hold data. -/
def dataFields (s : StructDecl) : List Field := s.fields.list.filter fun f => !f.ty.isPhantom

/-- The fields that hold none. -/
def phantomFields (s : StructDecl) : List Field := s.fields.list.filter fun f => f.ty.isPhantom

end StructDecl

/-- All fields have a name of their own, a type that is written out and well formed
    markers, and some field holds data. -/
structure StructDecl.WellDeclared (s : StructDecl) : Prop where
  named : ∀ f ∈ s.fields.list, f.name.isSome = true
  distinct : ((s.fields.list.filterMap Field.name).map Ident.text).Nodup
  explicit : ∀ f ∈ s.fields.list, f.ty.isInfer = false
  wellFormed : s.HasWellFormedMarkers
  holdsData : ∃ f ∈ s.fields.list, f.ty.isPhantom = false

instance (s : StructDecl) : Decidable s.WellDeclared :=
  decidable_of_iff
    ((∀ f ∈ s.fields.list, f.name.isSome = true)
      ∧ ((s.fields.list.filterMap Field.name).map Ident.text).Nodup
      ∧ (∀ f ∈ s.fields.list, f.ty.isInfer = false)
      ∧ s.HasWellFormedMarkers
      ∧ ∃ f ∈ s.fields.list, f.ty.isPhantom = false)
    ⟨fun ⟨h₁, h₂, h₃, h₄, h₅⟩ => ⟨h₁, h₂, h₃, h₄, h₅⟩,
      fun ⟨h₁, h₂, h₃, h₄, h₅⟩ => ⟨h₁, h₂, h₃, h₄, h₅⟩⟩

/-! ## Reading the fields -/

/-- A property is that of a field, and both have a name and a type. -/
structure Field.Describes (f : Field) (p : Property) : Prop where
  name : p.name = f.name
  ty : p.ty = some f.ty
  isStatic : p.isStatic = false
  isNamed : f.name.isSome = true

namespace Field.Describes

variable {f : Field} {p : Property}

theorem isComputed (h : f.Describes p) : p.isComputed = f.ty.isPhantom := by
  unfold Property.isComputed
  rw [h.ty]

/-- A property counts as one that holds data by the type of its field alone. -/
theorem isTyped (h : f.Describes p) :
    (p.ty.isSome && (p.isStored && !p.isStatic && p.name.isSome)) = !f.ty.isPhantom := by
  unfold Property.isStored
  simp [h.ty, h.isStatic, h.name, h.isNamed, h.isComputed]

end Field.Describes

section WellDeclared

variable {s : StructDecl} {ps : List Property}

/-- The fields of a structure and their properties, one by one. -/
theorem forall₂_describes (h : s.WellDeclared) (hread : (Item.struct s).properties = .ok ps) :
    List.Forall₂ Field.Describes s.fields.list ps := by
  have hfields := (forall₂_and_mem (Item.forall₂_properties hread).flip).flip
  refine hfields.imp ?_
  rintro f p ⟨hproperty, hmem⟩
  obtain ⟨hname, hty, hstatic⟩ := Property.ofField_fixed hproperty
  refine ⟨hname, ?_, hstatic, h.named f hmem⟩
  rw [hty, Ty.explicit?, h.explicit f hmem]
  rfl

/-- The properties that hold data are those of the fields that do. -/
theorem forall₂_dataFields (h : s.WellDeclared) (hread : (Item.struct s).properties = .ok ps) :
    List.Forall₂ Field.Describes s.dataFields (Property.typed ps) := by
  unfold StructDecl.dataFields Property.typed Property.stored
  rw [List.filter_filter]
  refine List.rel_filter ?_ (forall₂_describes h hread)
  intro f p hfp
  show (!f.ty.isPhantom) = true ↔ _
  rw [← hfp.isTyped]

/-- What stands for the properties that hold data, one by one, bears the names of the
    fields that do. -/
theorem map_name_dataFields (h : s.WellDeclared) (hread : (Item.struct s).properties = .ok ps)
    {α : Type} {name : α → Ident} {xs : List α}
    (hxs : List.Forall₂ (fun p x => p.name = some (name x)) (Property.typed ps) xs) :
    s.dataFields.map Field.name = xs.map fun x => some (name x) := by
  calc s.dataFields.map Field.name
      = (Property.typed ps).map Property.name :=
        map_congr_of_forall₂ (fun _ _ hfp => hfp.name.symm) (forall₂_dataFields h hread)
    _ = xs.map fun x => some (name x) := map_congr_of_forall₂ (fun _ _ hpx => hpx) hxs

/-- The names of the fields that hold no data. -/
theorem phantoms_eq_phantomFields (h : s.WellDeclared)
    (hread : (Item.struct s).properties = .ok ps) :
    (Property.phantoms ps).map some = s.phantomFields.map Field.name := by
  have hcomputed : List.Forall₂ Field.Describes s.phantomFields
      (ps.filter fun p => p.isComputed && p.name.isSome) := by
    refine List.rel_filter ?_ (forall₂_describes h hread)
    intro f p hfp
    show f.ty.isPhantom = true ↔ (p.isComputed && p.name.isSome) = true
    rw [hfp.isComputed, hfp.name, hfp.isNamed, Bool.and_true]
  unfold Property.phantoms
  rw [List.map_filterMap]
  generalize (ps.filter fun p => p.isComputed && p.name.isSome) = computed at hcomputed
  generalize s.phantomFields = fields at hcomputed
  induction hcomputed with
  | nil => rfl
  | @cons f p fields ps hfp _ ih =>
      obtain ⟨name, hname⟩ := Option.isSome_iff_exists.mp hfp.isNamed
      rw [List.filterMap_cons, hfp.name, hname, List.map_cons, hname, ← ih]
      rfl

/-- A macro emits code for the structure unless that crashes, and reports
    nothing. -/
theorem expandStruct_wellDeclared {α : Type} (h : s.WellDeclared)
    (hread : (Item.struct s).properties = .ok ps) (m : AttachedMacro) (a : Attachment)
    (generate : StructTarget → Except Crash α) :
    expandStruct m a (.struct s) generate
      = (generate (.ofProperties a s ps)).map fun g => { items := [g] } := by
  have hdata := forall₂_dataFields h hread
  have hnonempty : (Property.typed ps).isEmpty = false := by
    obtain ⟨f, hf, hphantom⟩ := h.holdsData
    have hmem : f ∈ s.dataFields := List.mem_filter.mpr ⟨hf, by rw [hphantom]; rfl⟩
    obtain ⟨p, hp, -⟩ := exists_mem_of_forall₂ hdata.flip hmem
    rw [List.isEmpty_eq_false_iff]
    exact List.ne_nil_of_mem hp
  have hquiet : (requireTypes m (Property.stored ps)).2 = [] := by
    refine List.map_eq_nil_iff.mpr (List.filter_eq_nil_iff.mpr ?_)
    intro p hp
    obtain ⟨f, -, hfp⟩ := exists_mem_of_forall₂ (forall₂_describes h hread)
      (List.mem_of_mem_filter hp)
    simp [hfp.ty]
  rw [expandStruct_eq m a hread, hnonempty, hquiet, if_neg (by simp)]

/-! ## Complete literals -/

/-- A literal is complete for a structure. -/
structure LiteralCode.Complete (s : StructDecl) (l : LiteralCode) : Prop where
  /-- It starts the fields that hold data, in order, and then those that hold none,
      in order. -/
  inOrder : l.fields.map (fun f => some f.name) = (s.dataFields ++ s.phantomFields).map Field.name
  /-- So it starts each declared field, as often as it is declared, and no other. -/
  declared : (l.fields.map fun f => some f.name).Perm (s.fields.list.map Field.name)
  /-- It starts no field twice. -/
  once : (l.fields.map fun f => f.name.text).Nodup

/-- A literal is complete if its values stand for the properties that hold data,
    one by one, and are followed by the fields that hold none. -/
theorem LiteralCode.Complete.of_forall₂ (h : s.WellDeclared)
    (hread : (Item.struct s).properties = .ok ps) {α : Type} {init : α → FieldInit} {xs : List α}
    (hxs : List.Forall₂ (fun p x => p.name = some (init x).name) (Property.typed ps) xs)
    (ty : Option Ident) :
    LiteralCode.Complete s
      ⟨ty, (xs.map init ++ phantomInits (Property.phantoms ps)).map FieldInit.code⟩ := by
  have hphantoms : (phantomInits (Property.phantoms ps)).map (fun init => some init.name)
      = s.phantomFields.map Field.name := by
    rw [← phantoms_eq_phantomFields h hread, phantomInits, List.map_map]
    rfl
  have horder : ((xs.map init ++ phantomInits (Property.phantoms ps)).map FieldInit.code).map
      (fun f => some f.name) = (s.dataFields ++ s.phantomFields).map Field.name := by
    rw [List.map_map]
    show (xs.map init ++ phantomInits (Property.phantoms ps)).map (fun init => some init.name) = _
    rw [List.map_append, List.map_append, hphantoms, map_name_dataFields h hread hxs,
      List.map_map]
    rfl
  have hperm : (s.dataFields ++ s.phantomFields).Perm s.fields.list := by
    refine List.Perm.trans List.perm_append_comm ?_
    exact List.filter_append_perm (fun f => f.ty.isPhantom) s.fields.list
  have hdeclared := horder ▸ hperm.map Field.name
  refine ⟨horder, hdeclared, ?_⟩
  -- the texts in the literal are those that are declared, in another order
  generalize (xs.map init ++ phantomInits (Property.phantoms ps)).map FieldInit.code = fields
    at hdeclared
  have htexts := hdeclared.filterMap (Option.map Ident.text)
  rw [List.filterMap_map, List.filterMap_map] at htexts
  have hdistinct := h.distinct
  rw [List.map_filterMap] at hdistinct
  have hnodup := htexts.nodup_iff.mpr hdistinct
  rwa [show (Option.map Ident.text ∘ fun f : FieldCode => some f.name)
    = some ∘ fun f => f.name.text from rfl, List.filterMap_eq_map] at hnodup

/-! ## The literals of a program -/

/-- The literal that a function returns. -/
def Body.literal? : Body → Option LiteralCode
  | .literal l | .success l => some l
  | _ => none

/-- The functions of a type that return literals, with what they return. -/
def Program.literals (p : Program) (type : String) : List (Method × LiteralCode) :=
  (p.methods type).filterMap fun m => m.body.literal?.map fun l => (m, l)

/-- Setters return no literals. -/
theorem Setter.literals_eq_nil (vis : Tokens) (ts : List Setter) :
    (ts.map (Setter.method vis)).filterMap (fun m => m.body.literal?.map fun l => (m, l)) = [] := by
  rw [List.filterMap_map, List.filterMap_eq_nil_iff]
  intro t _
  rfl

/-- A constructor returns its literal. -/
theorem Constructor.literals_code {c : Constructor} {type : String}
    (h : c.target.name.text = type) :
    c.code.literals type = [(c.method, ⟨none, c.literal.map FieldInit.code⟩)] := by
  rw [Program.literals, Constructor.methods_code h, Constructor.methods]
  exact congrArg (_ :: ·) (Setter.literals_eq_nil c.vis c.setters)

/-- So does a conversion. -/
theorem Conversion.literals_code (c : Conversion) :
    c.code.literals c.target.name.text
      = [(c.fromRaw, ⟨none, c.literal.map FieldInit.code⟩)] := by
  rw [Program.literals, c.methods_code]
  rfl

/-- A builder returns a new builder, and the structure. -/
theorem Builder.literals_code {b : Builder} (h : b.name.text ≠ b.target.name.text) :
    b.code.literals b.name.text
      = [(b.newMethod, ⟨none, b.initial.map FieldInit.code⟩),
        (b.buildMethod, ⟨some b.target.name, b.built.map FieldInit.code⟩)] := by
  rw [Program.literals, Builder.methods_code h, Builder.methods, List.filterMap_append]
  have hsetters := Setter.literals_eq_nil b.vis b.setters
  exact congrArg (fun rest => (_ :: rest) ++ _) hsetters

/-! ## Constructors -/

/-- The field is written in short: its name alone, for the parameter of that name. -/
def FieldCode.isShort (f : FieldCode) : Bool := f.code.isNone

/-- A function passes its parameters to a literal. -/
structure Method.Passes (s : StructDecl) (m : Method) (l : LiteralCode) : Prop where
  /-- What is written in short are the parameters, in order. -/
  short : (l.fields.filter FieldCode.isShort).map FieldCode.name = m.params.map Prod.fst
  /-- The parameters are declared fields with their types, in order. -/
  typed : (m.params.map fun p => (some p.1, p.2)).Sublist
    (s.fields.list.map fun f => (f.name, f.ty.tokens))

theorem Parameter.isShort_init (p : Parameter) : p.init.code.isShort = p.isRequired := by
  unfold Parameter.init Parameter.isRequired
  cases p.initial <;> rfl

theorem Parameter.name_init (p : Parameter) : p.init.name = p.name := by
  unfold Parameter.init
  cases p.initial <;> rfl

/-- What a constructor writes in short are its parameters, in order. -/
theorem Constructor.short_eq_inputs (c : Constructor) :
    ((c.literal.map FieldInit.code).filter FieldCode.isShort).map FieldCode.name
      = c.inputs.map Parameter.name := by
  have hphantoms :
      ((phantomInits c.phantoms).map FieldInit.code).filter FieldCode.isShort = [] := by
    rw [List.filter_eq_nil_iff]
    intro f hf
    obtain ⟨init, hinit, rfl⟩ := List.mem_map.mp hf
    obtain ⟨name, -, rfl⟩ := List.mem_map.mp hinit
    exact Bool.false_ne_true
  have hrequired :
      (FieldCode.isShort ∘ FieldInit.code ∘ Parameter.init) = Parameter.isRequired := by
    funext p
    exact p.isShort_init
  -- a value that is filled in and a field without data are written out
  rw [Constructor.literal, List.map_append, List.filter_append, hphantoms, List.append_nil,
    List.map_map, List.filter_map, hrequired, List.map_map]
  exact List.map_congr_left fun p _ => p.name_init

/-- Each parameter is a field that holds data, with its type, in order. -/
theorem map_parameters_eq_dataFields (h : s.WellDeclared)
    (hread : (Item.struct s).properties = .ok ps) (k : ConstructorKind) :
    (k.parameters (Property.typed ps)).map (fun q => (some q.name, q.ty.tokens))
      = s.dataFields.map fun f => (f.name, f.ty.tokens) := by
  have hfields : s.dataFields.map (fun f => (f.name, some f.ty.tokens))
      = (Property.typed ps).map fun p => (p.name, p.ty.map Ty.tokens) :=
    map_congr_of_forall₂ (fun f p hfp => by rw [hfp.name, hfp.ty]; rfl) (forall₂_dataFields h hread)
  have hparams : (Property.typed ps).map (fun p => (p.name, p.ty.map Ty.tokens))
      = (k.parameters (Property.typed ps)).map fun q => (some q.name, some q.ty.tokens) := by
    refine map_congr_of_forall₂ ?_ (forall₂_parameters k ps)
    intro p q hpq
    obtain ⟨hname, hty, -⟩ := Parameter.ofProperty?_eq_some_iff.mp hpq
    rw [hname, hty]
    rfl
  have hboth := hfields.trans hparams
  have hinj : Function.Injective
      (Prod.map id some : Option Ident × Tokens → Option Ident × Option Tokens) :=
    Function.Injective.prodMap Function.injective_id fun _ _ => Option.some.inj
  refine hinj.list_map ?_
  rw [List.map_map, List.map_map]
  exact hboth.symm

/-- A constructor is complete for a structure: what is emitted for it has one literal. -/
structure Constructor.IsComplete (s : StructDecl) (c : Constructor) : Prop where
  printed : c.tokens = c.code.tokens
  returns : ∃ m l, c.code.literals s.name.text = [(m, l)] ∧ m.name.text = c.kind.function
    ∧ l.type = none ∧ l.Complete s ∧ m.Passes s l

/-- The constructor of a structure is complete. -/
theorem Constructor.IsFor.isComplete (h : s.WellDeclared)
    (hread : (Item.struct s).properties = .ok ps) {c : Constructor} (hc : c.IsFor s ps) :
    c.IsComplete s where
  printed := c.tokens_eq_code
  returns := by
    refine ⟨_, _, Constructor.literals_code (by rw [hc.target]), rfl, rfl, ?_, ?_, ?_⟩
    · rw [Constructor.literal, hc.params, hc.phantoms]
      refine .of_forall₂ h hread ((forall₂_parameters c.kind ps).imp ?_) none
      intro p q hpq
      rw [q.name_init]
      exact (Parameter.ofProperty?_eq_some_iff.mp hpq).1
    · rw [c.short_eq_inputs]
      show _ = (c.inputs.map fun q => (q.name, q.ty.tokens)).map Prod.fst
      rw [List.map_map]
      rfl
    · have hinputs : (c.inputs.map fun q => (some q.name, q.ty.tokens)).Sublist
          (c.params.map fun q => (some q.name, q.ty.tokens)) := List.filter_sublist.map _
      rw [hc.params, map_parameters_eq_dataFields h hread c.kind] at hinputs
      show ((c.inputs.map fun q => (q.name, q.ty.tokens)).map _).Sublist _
      rw [List.map_map]
      exact hinputs.trans (List.filter_sublist.map _)

/-! ## Conversions and builders -/

theorem Property.name_of_conversion? {p : Property} {init : FieldInit}
    (h : p.conversion? = some init) : p.name = some init.name := by
  unfold Property.conversion? at h
  cases hname : p.name with
  | none => rw [hname] at h; cases h
  | some name =>
      cases hty : p.ty with
      | none => rw [hname, hty] at h; cases h
      | some ty =>
          rw [hname, hty] at h
          rw [← Option.some.inj h]

/-- The values of a conversion, one for each property. -/
theorem forall₂_conversions (ps : List Property) :
    List.Forall₂ (fun p init => p.conversion? = some init) (Property.typed ps)
      ((Property.typed ps).filterMap Property.conversion?) := by
  refine forall₂_filterMap ?_
  intro p hp
  obtain ⟨name, ty, hname, hty⟩ := Property.exists_of_mem_typed hp
  rw [Property.conversion?, hname, hty]
  rfl

/-- A conversion is complete for a structure: what is emitted for it has one literal. -/
structure Conversion.IsComplete (s : StructDecl) (c : Conversion) : Prop where
  printed : c.tokens = c.code.tokens
  returns : ∃ m l, c.code.literals s.name.text = [(m, l)] ∧ m.name.text = "from_raw"
    ∧ l.type = none ∧ l.Complete s

/-- The conversion of a structure is complete. -/
theorem Conversion.IsFor.isComplete (h : s.WellDeclared)
    (hread : (Item.struct s).properties = .ok ps) {c : Conversion} (hc : c.IsFor s ps) :
    c.IsComplete s where
  printed := c.tokens_eq_code
  returns := by
    have hliterals := c.literals_code
    rw [hc.target] at hliterals
    refine ⟨_, _, hliterals, rfl, rfl, ?_⟩
    have hvalues : List.Forall₂ (fun p init => p.name = some (id init : FieldInit).name)
        (Property.typed ps) c.values := by
      rw [hc.values]
      exact (forall₂_conversions ps).imp fun _ _ => Property.name_of_conversion?
    have hcomplete := LiteralCode.Complete.of_forall₂ h hread hvalues none
    rw [List.map_id] at hcomplete
    rwa [Conversion.literal, hc.phantoms]

/-- A builder is complete for a structure: what is emitted for it has two literals, of the builder
    and of the structure. -/
structure Builder.IsComplete (s : StructDecl) (b : Builder) : Prop where
  printed : b.tokens = b.code.tokens
  /-- The builder starts with exactly the fields that are declared for it, in order. -/
  returns : ∃ new initial build built,
    b.code.literals b.name.text = [(new, initial), (build, built)]
    ∧ new.name.text = "new" ∧ initial.type = none
    ∧ initial.fields.map FieldCode.name = (b.code.fields b.name.text).map Prod.fst
    ∧ build.name.text = "build" ∧ built.type = some s.name ∧ built.Complete s
  /-- Those are the fields that hold data, and one more if the structure is generic. -/
  declared : (b.code.fields b.name.text).map (fun d => some d.1)
    = s.dataFields.map Field.name
      ++ if s.generics.params.isEmpty then [] else [some Builder.markerName]

/-- The builder of a structure is complete. -/
theorem Builder.IsFor.isComplete (h : s.WellDeclared)
    (hread : (Item.struct s).properties = .ok ps) {b : Builder} (hb : b.IsFor s ps) :
    b.IsComplete s := by
  have hnames : List.Forall₂ (fun p f => p.name = some f.name) (Property.typed ps) b.fields := by
    rw [hb.fields]
    exact (forall₂_builderFields ps).imp fun _ _ hpf => (BuilderField.ofProperty?_spec hpf).1
  refine ⟨b.tokens_eq_code, ?_, ?_⟩
  · refine ⟨_, _, _, _, Builder.literals_code hb.name_ne_target, rfl, rfl, ?_, rfl, ?_, ?_⟩
    · rw [b.fields_code, ← b.initial_eq_declared]
      exact List.map_map ..
    · rw [hb.target]
    · rw [Builder.built, hb.phantoms]
      exact .of_forall₂ h hread hnames _
  · have hgeneric : b.isGeneric = !s.generics.params.isEmpty := by
      unfold Builder.isGeneric
      rw [hb.target]
    rw [b.fields_code]
    unfold Builder.declared
    rw [map_name_dataFields h hread hnames, hgeneric]
    cases s.generics.params.isEmpty <;> simp [Function.comp_def]

end WellDeclared

/-! ## Every literal is complete -/

/-- **Literals are complete.**  For a structure whose fields have different names,
    types that are written out and well formed markers, and one of which holds data:
    each macro emits one thing and reports nothing, and the literal of the structure
    in what is printed for it starts each declared field exactly once, those that hold
    data first.  What a constructor writes in short are its parameters, with their
    declared types.  A builder starts with exactly the fields that it declares; there
    is none if the name of the structure cannot be extended, as a raw name cannot. -/
theorem StructDecl.literals_complete (s : StructDecl) (h : s.WellDeclared) (a : Attachment) :
    (∀ kind : ConstructorKind, ∃ c : Constructor,
        Constructor.expand kind a (.struct s) = .ok { items := [c] } ∧ c.kind = kind
          ∧ c.IsComplete s)
      ∧ (∀ source : Ty, a.source = some source → ∃ c : Conversion,
        Conversion.expand a (.struct s) = .ok { items := [c] } ∧ c.source = source
          ∧ c.IsComplete s)
      ∧ (∀ name : Ident, s.name.builderName = .ok name → ∃ b : Builder,
        Builder.expand a (.struct s) = .ok { items := [b] } ∧ b.name = name ∧ b.IsComplete s)
      ∧ (∀ crash : Crash, s.name.builderName = .error crash →
        Builder.expand a (.struct s) = .error crash) := by
  obtain ⟨ps, hread⟩ := s.exists_properties_iff.mpr h.wellFormed
  refine ⟨?_, ?_, ?_, ?_⟩
  · intro kind
    exact ⟨_, expandStruct_wellDeclared h hread _ a _, rfl,
      Constructor.IsFor.isComplete h hread ⟨rfl, rfl, rfl⟩⟩
  · intro source hsource
    refine ⟨Conversion.ofTarget source (.ofProperties a s ps), ?_, rfl,
      Conversion.IsFor.isComplete h hread ⟨rfl, rfl, rfl⟩⟩
    unfold Conversion.expand
    rw [hsource]
    exact expandStruct_wellDeclared h hread _ a _
  · intro name hname
    have hb : ∃ b, Builder.ofTarget (.ofProperties a s ps) = .ok b ∧ b.name = name := by
      unfold Builder.ofTarget
      rw [show (StructTarget.ofProperties a s ps).target.name = s.name from rfl, hname]
      exact ⟨_, rfl, rfl⟩
    obtain ⟨b, hb, hbname⟩ := hb
    refine ⟨b, ?_, hbname, (Builder.isFor_ofTarget hb).isComplete h hread⟩
    rw [Builder.expand, expandStruct_wellDeclared h hread, hb]
    rfl
  · intro crash hname
    rw [Builder.expand, expandStruct_wellDeclared h hread, Builder.ofTarget,
      show (StructTarget.ofProperties a s ps).target.name = s.name from rfl, hname]
    rfl

/-- A tag that mentions a type in its first field, and has a field of each kind. -/
def Sample.tag : Sample where
  source := "struct Tag<T> \x7b of: PhantomData<T>, #[default(1)] id: u8, note: Option<u8>, "
    ++ "#[stub] age: u8, kind: u8 \x7d"

/-- The literals of the tag start its fields, the one without data last. -/
theorem Sample.tag_literals_complete :
    ∃ s a source name, Sample.tag.struct? = some s ∧ s.WellDeclared
      ∧ a.source = some source ∧ s.name.builderName = .ok name
      ∧ (s.dataFields ++ s.phantomFields).map (fun f => f.name.map Ident.text)
        = [some "id", some "note", some "age", some "kind", some "of"]
      ∧ (∃ c, Constructor.expand .stub a (.struct s) = .ok { items := [c] } ∧ c.IsComplete s)
      ∧ (∃ c, Conversion.expand a (.struct s) = .ok { items := [c] } ∧ c.IsComplete s)
      ∧ ∃ b, Builder.expand a (.struct s) = .ok { items := [b] } ∧ b.IsComplete s := by
  have hcheck : (Sample.tag.struct?.any fun s => decide (s.WellDeclared
      ∧ s.name.builderName.toOption.isSome = true
      ∧ (s.dataFields ++ s.phantomFields).map (fun f => f.name.map Ident.text)
        = [some "id", some "note", some "age", some "kind", some "of"])) = true := by
    decide +kernel
  have hread : ((Attachment.read ((Tokens.lex? "from = Dto").getD []) true).toOption.any
      fun a => a.source.isSome) = true := by decide +kernel
  obtain ⟨s, hs, hall⟩ := (Option.any_eq_true _ _).mp hcheck
  obtain ⟨a, -, hsource⟩ := (Option.any_eq_true _ _).mp hread
  obtain ⟨source, hsource⟩ := Option.isSome_iff_exists.mp hsource
  obtain ⟨hdeclared, hname, hfields⟩ := of_decide_eq_true hall
  cases hbuilder : s.name.builderName with
  | error crash => rw [hbuilder] at hname; exact nomatch hname
  | ok name =>
      obtain ⟨hconstructor, hconversion, hbuilt, -⟩ := s.literals_complete hdeclared a
      obtain ⟨c, hc, -, hcomplete⟩ := hconstructor .stub
      obtain ⟨v, hv, -, hliteral⟩ := hconversion source hsource
      obtain ⟨b, hb, -, hwhole⟩ := hbuilt name hbuilder
      exact ⟨s, a, source, name, hs, hdeclared, hsource, hbuilder, hfields,
        ⟨c, hc, hcomplete⟩, ⟨v, hv, hliteral⟩, b, hb, hwhole⟩

end DeclMacros
