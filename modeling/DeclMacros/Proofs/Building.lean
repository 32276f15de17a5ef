import DeclMacros.Proofs.Printing
import DeclMacros.Proofs.Records
import DeclMacros.Sample.Declaration

/-! # What a builder builds

    A builder holds a slot for each stored property.  A run starts it, calls its
    setters in any order and any number of times, and builds.

    The builder is followed on its own fields first: its start, the calls and the
    build are a literal, a sequence of writes and a literal (`Builder.run_fields`).
    How a slot behaves is then read off the property that it was made for
    (`BuilderField.ofProperty?_spec`), so that the result of a run can be said by
    the declaration alone: the first property that has to be set and was not, or
    the structure of the values that were set last.

    All that is then carried over to the program that is printed for the builder: a
    call of one of its functions by name does what the builder does
    (`Builder.build_eq_run`), and each function fits the fields that the program
    declares (`Builder.IsFor.methods_fit`). -/

set_option autoImplicit false

namespace DeclMacros

/-! ## One field -/

namespace BuilderField

/-- The text of the field's name. -/
def key (f : BuilderField) : String := f.name.text

/-- The value with which the field starts. -/
def starting (s : Surroundings) (f : BuilderField) : Value :=
  match f.slot with
  | .defaulted e => s.constant e
  | _ => .absent

/-- The field has to be set, and no call sets it. -/
def isMissing (calls : List (String × Value)) (f : BuilderField) : Bool :=
  f.isRequired && (lastPassed calls f.key).isNone

/-- The value that the calls settle on for the field. -/
def settled (s : Surroundings) (calls : List (String × Value)) (f : BuilderField) : Value :=
  (lastPassed calls f.key).getD (f.starting s)

/-- The field in the literal of a new builder. -/
theorem eval_init (s : Surroundings) (frame : Frame) (f : BuilderField) :
    f.init.eval s frame = .ok (f.key, f.starting s) := by
  rw [init, starting]
  cases f.slot <;> rfl

/-- A field that has to be set starts without a value. -/
theorem starting_of_isRequired {s : Surroundings} {f : BuilderField} (h : f.isRequired = true) :
    f.starting s = .absent := by
  rw [isRequired] at h
  rw [starting]
  cases hslot : f.slot with
  | defaulted e => rw [hslot] at h; exact nomatch h
  | optional => rfl
  | required => rfl

/-- The field in the literal of what is built, from a builder that holds in it
    what the calls have left. -/
theorem eval_built (s : Surroundings) (calls : List (String × Value)) {self : Value}
    (f : BuilderField)
    (hself : self.field? f.key
      = some (heldAfter calls f.key f.isRequired (f.starting s))) :
    f.built.eval s { self := self }
      = if f.isMissing calls then .error (.failed (.missingField f.name.display))
        else .ok (f.key, f.settled s calls) := by
  rw [built, FieldInit.eval, isMissing, settled]
  rw [heldAfter] at hself
  cases hrequired : f.isRequired with
  | false =>
      rw [if_neg (by simp), Bool.false_and, if_neg (by simp)]
      rw [hrequired] at hself
      show Except.map _ (Halt.orUndefined f.name (self.field? f.key)) = _
      rw [hself]
      cases lastPassed calls f.key <;> rfl
  | true =>
      rw [if_pos rfl, Bool.true_and, FieldValue.eval]
      rw [hrequired, starting_of_isRequired hrequired] at hself
      have hfield : ({ self := self } : Frame).self.field? f.name.text
          = some (heldAfter calls f.key true .absent) := hself
      rw [hfield, heldAfter]
      cases lastPassed calls f.key <;> rfl

end BuilderField

/-! ## A run, by the fields of the builder -/

namespace Builder

variable {b : Builder}

/-- The setter of a field is found under its name. -/
theorem find?_setters (hkeys : (b.fields.map BuilderField.key).Nodup) {f : BuilderField}
    (hf : f ∈ b.fields) : b.setters.find? (fun t => t.name.text = f.key) = some f.setter := by
  rw [setters, List.find?_map]
  have hfound : b.fields.find? ((fun t : Setter => decide (t.name.text = f.key))
      ∘ BuilderField.setter) = some f := find?_key hkeys hf
  rw [hfound]
  rfl

/-- The result of a run: the first field that has to be set and was not, or the
    record of the values that the calls settle on. -/
theorem run_fields (hkeys : (b.fields.map BuilderField.key).Nodup)
    (hmarker : ∀ f ∈ b.fields, f.key ≠ markerName.text) {calls : List (String × Value)}
    (hcalls : ∀ c ∈ calls, ∃ f ∈ b.fields, f.key = c.1) (s : Surroundings) :
    b.run s calls = match b.fields.find? (BuilderField.isMissing calls) with
      | some f => .error (.failed (.missingField f.name.display))
      | none => .ok (.record b.target.name.text
          (entries BuilderField.key (BuilderField.settled s calls) b.fields
            ++ phantomEntries b.phantoms)) := by
  have hstart : b.start s = .ok (.record b.name.text
      (entries BuilderField.key (BuilderField.starting s) b.fields
        ++ phantomEntries (if b.isGeneric then [markerName] else []))) := by
    rw [start, initial, literalValue_ok fun f _ => f.eval_init s {}]
  have htail : ∀ c ∈ calls, ∀ e ∈ phantomEntries (if b.isGeneric then [markerName] else []),
      e.1 ≠ c.1 := by
    intro c hc e he
    obtain ⟨f, hf, hkey⟩ := hcalls c hc
    obtain ⟨name, hname, rfl⟩ := List.mem_map.mp he
    cases hgeneric : b.isGeneric with
    | false =>
        rw [hgeneric, if_neg Bool.false_ne_true] at hname
        exact absurd hname List.not_mem_nil
    | true =>
        rw [hgeneric, if_pos rfl] at hname
        rw [List.mem_singleton.mp hname, ← hkey]
        exact (hmarker f hf).symm
  have hsetters : ∀ c ∈ calls, ∃ t, b.setters.find? (fun t => t.name.text = c.1) = some t
      ∧ t.field.text = c.1 ∧ ∀ g ∈ b.fields, g.key = c.1 → t.wraps = g.isRequired := by
    intro c hc
    obtain ⟨f, hf, hkey⟩ := hcalls c hc
    refine ⟨f.setter, hkey ▸ find?_setters hkeys hf, hkey, ?_⟩
    intro g hg hgkey
    rw [List.inj_on_of_nodup_map hkeys hg hf (hgkey.trans hkey.symm)]
    rfl
  -- the calls write into the fields, and the marker is not among them
  have hself := callAll_entries BuilderField.key id hsetters htail b.name.text
    (BuilderField.starting s)
  have hsame : calls.map (fun c => (id c.1, c.2)) = calls := List.map_id calls
  rw [hsame] at hself
  rw [run, hstart]
  show Setter.callAll b.setters calls _ >>= _ = _
  rw [hself]
  show Builder.build s b _ = _
  rw [build, built, literalValue_eq
    (fun f hf => f.eval_built s calls (field?_entries hkeys hf _ _ _)) b.target.name b.phantoms]
  cases b.fields.find? (BuilderField.isMissing calls) <;> rfl

end Builder

/-! ## A run of the program -/

/-- What a literal makes bears its name. -/
theorem tag?_of_literalValue {s : Surroundings} {frame : Frame} {name : Ident}
    {fields : List FieldInit} {v : Value} (h : literalValue s frame name fields = .ok v) :
    v.tag? = some name.text := by
  rw [literalValue] at h
  cases hfields : fields.mapM (FieldInit.eval s frame) with
  | error e => rw [hfields] at h; cases h
  | ok entries =>
      rw [hfields] at h
      rw [← Except.ok.inj h]
      rfl

/-- A setter leaves the name of its receiver. -/
theorem Setter.tag?_set (t : Setter) (self v : Value) : (t.set self v).tag? = self.tag? := by
  rw [set]
  cases self <;> rfl

/-- So do calls of setters. -/
theorem Setter.tag?_callAll {setters : List Setter} {calls : List (String × Value)}
    {self result : Value} (h : Setter.callAll setters calls self = .ok result) :
    result.tag? = self.tag? := by
  induction calls generalizing self with
  | nil =>
      cases h
      rfl
  | cons c rest ih =>
      rw [callAll, call] at h
      cases hfound : setters.find? fun t => t.name.text = c.1 with
      | none => rw [hfound] at h; cases h
      | some t =>
          rw [hfound] at h
          exact (ih h).trans (t.tag?_set self c.2)

/-- If the functions that are called on values of a type are its setters, a sequence of such calls
    is one of calls of setters. -/
theorem Program.invokeAll_eq_callAll {s : Surroundings} {p : Program} {setters : List Setter}
    {type : String} {calls : List (String × Value)}
    (h : ∀ c ∈ calls, ∀ self : Value, self.tag? = some type →
      p.invoke s c.1 [c.2] self = Setter.call setters c.1 self c.2)
    {self : Value} (htag : self.tag? = some type) :
    p.invokeAll s calls self = Setter.callAll setters calls self := by
  induction calls generalizing self with
  | nil => rfl
  | cons c rest ih =>
      rw [Program.invokeAll, Setter.callAll, h c (List.mem_cons_self ..) self htag, Setter.call]
      cases setters.find? fun t => t.name.text = c.1 with
      | none => rfl
      | some t =>
          -- what the setter returns is of the type again, so the next call is one of its setters
          exact ih (fun c hc => h c (List.mem_cons_of_mem _ hc)) ((t.tag?_set self c.2).trans htag)

namespace Builder

/-- Which function of a builder is found under a name. -/
theorem find?_methods (b : Builder) (name : String) :
    b.methods.find? (fun m => m.name.text = name)
      = if name = "new" then some b.newMethod
        else ((b.setters.find? fun t => t.name.text = name).map (Setter.method b.vis)).or
          (if name = "build" then some b.buildMethod else none) := by
  have hsetters : (b.setters.map (Setter.method b.vis)).find? (fun m => m.name.text = name)
      = (b.setters.find? fun t => t.name.text = name).map (Setter.method b.vis) :=
    List.find?_map
  rw [methods, List.cons_append, List.find?_cons, List.find?_append, hsetters, List.find?_cons,
    List.find?_nil]
  by_cases hnew : name = "new"
  · rw [if_pos hnew, decide_eq_true (show b.newMethod.name.text = name from hnew.symm)]
  · rw [if_neg hnew, decide_eq_false (show ¬b.newMethod.name.text = name from Ne.symm hnew)]
    by_cases hbuild : name = "build"
    · rw [if_pos hbuild, decide_eq_true (show b.buildMethod.name.text = name from hbuild.symm)]
    · rw [if_neg hbuild,
        decide_eq_false (show ¬b.buildMethod.name.text = name from Ne.symm hbuild)]

/-- A setter is found under the name of a field only. -/
theorem find?_setters_eq_none {b : Builder} {name : String} (h : ∀ f ∈ b.fields, f.key ≠ name) :
    b.setters.find? (fun t => t.name.text = name) = none := by
  refine List.find?_eq_none.mpr ?_
  intro t ht
  obtain ⟨f, hf, rfl⟩ := List.mem_map.mp ht
  exact fun hname => h f hf (of_decide_eq_true hname)

/-- A program makes builders, and finds the functions of a builder on them. -/
structure OfferedBy (b : Builder) (p : Program) : Prop where
  entry : (p.methods b.target.name.text).find? (fun m => m.name.text = "builder")
    = some b.entryMethod
  own : ∀ name, (p.methods b.name.text).find? (fun m => m.name.text = name)
    = b.methods.find? fun m => m.name.text = name

/-- The program of a builder does, if the builder is not named as what it builds. -/
theorem offeredBy_code {b : Builder} (h : b.name.text ≠ b.target.name.text) :
    b.OfferedBy b.code where
  entry := by
    rw [methods_code_target h]
    rfl
  own := by
    intro name
    rw [methods_code h]

section Program

variable {b : Builder} {p : Program} (s : Surroundings) (hp : b.OfferedBy p)

include hp

/-- The function of the target makes a new builder. -/
theorem call_builder : p.call s b.target.name.text "builder" none [] = b.start s := by
  have hnew : p.callPlain s b.name.text "new" [] = b.start s := by
    rw [Program.callPlain, Method.callNamed, hp.own, find?_methods]
    exact call_newMethod s _ b
  rw [Program.call, Method.callNamed, hp.entry, ← hnew]
  rfl

/-- A function that is called on a builder with one argument is the setter of that name. -/
theorem invoke_setter (hnew : ∀ f ∈ b.fields, f.key ≠ "new") {self : Value}
    (htag : self.tag? = some b.name.text) (name : String) (v : Value) :
    p.invoke s name [v] self = Setter.call b.setters name self v := by
  rw [Program.invoke, htag, Setter.call]
  show p.call s b.name.text name (some self) [v] = _
  rw [Program.call, Method.callNamed, hp.own, find?_methods]
  by_cases hfirst : name = "new"
  · -- that function takes no receiver, and no setter has its name
    rw [hfirst, find?_setters_eq_none hnew]
    rfl
  · rw [if_neg hfirst]
    cases b.setters.find? fun t => t.name.text = name with
    | some t => exact t.call_method s _ _ _ self v
    | none =>
        by_cases hlast : name = "build"
        · -- that function takes no argument
          rw [hlast]
          rfl
        · rw [if_neg hlast]
          rfl

/-- Without an argument, the function that builds does so. -/
theorem invoke_build (hbuild : ∀ f ∈ b.fields, f.key ≠ "build") {self : Value}
    (htag : self.tag? = some b.name.text) : p.invoke s "build" [] self = b.build s self := by
  rw [Program.invoke, htag]
  show p.call s b.name.text "build" (some self) [] = _
  rw [Program.call, Method.callNamed, hp.own, find?_methods, find?_setters_eq_none hbuild]
  exact b.call_buildMethod s _ _ self

/-- **The program runs as the builder does.**  A run of a program that offers a builder, none of
    whose setters is named as another of its functions, has the result of a run of the
    builder. -/
theorem build_eq_run (hnew : ∀ f ∈ b.fields, f.key ≠ "new")
    (hbuild : ∀ f ∈ b.fields, f.key ≠ "build") (calls : List (String × Value)) :
    p.build s b.target.name.text calls = b.run s calls := by
  rw [Program.build, call_builder s hp, run]
  cases hstart : b.start s with
  | error e => rfl
  | ok started =>
      -- a builder keeps the name of its type through all calls, so its functions are found on it
      have htag := tag?_of_literalValue hstart
      show p.invokeAll s calls started >>= _ = Setter.callAll b.setters calls started >>= _
      rw [Program.invokeAll_eq_callAll
        (fun c _ self htag => invoke_setter s hp hnew htag c.1 c.2) htag]
      cases hcalls : Setter.callAll b.setters calls started with
      | error e => rfl
      | ok self => exact invoke_build s hp hbuild ((Setter.tag?_callAll hcalls).trans htag)

end Program

end Builder

/-! ## A run, by the properties of the structure -/

namespace Property

/-- The name of a property as it is printed. -/
def display (p : Property) : String := (p.name.map Ident.display).getD ""

/-- The property has no value of its own, cannot be absent, and is not passed. -/
def isMissing (calls : List (String × Value)) (p : Property) : Bool :=
  p.initial.isNone && !p.isOptional && !calls.any fun c => c.1 = p.key

/-- The value of a property after calls: the last one passed for it, else its
    own, else none. -/
def settled (s : Surroundings) (calls : List (String × Value)) (p : Property) : Value :=
  (lastPassed calls p.key).getD ((p.initial.map s.constant).getD .absent)

end Property

/-- The slot that holds a property. -/
def Property.slot (p : Property) : Slot :=
  match p.initial with
  | some e => .defaulted e
  | none => if p.isOptional then .optional else .required

theorem BuilderField.of_ofProperty? {p : Property} {f : BuilderField}
    (h : BuilderField.ofProperty? p = some f) :
    p.name = some f.name ∧ p.ty = some f.ty ∧ f.slot = p.slot := by
  rw [BuilderField.ofProperty?] at h
  cases hname : p.name with
  | none => rw [hname] at h; cases h
  | some name =>
      cases hty : p.ty with
      | none => rw [hname, hty] at h; cases h
      | some ty =>
          rw [hname, hty] at h
          rw [← Option.some.inj h]
          exact ⟨rfl, rfl, rfl⟩

/-- The builder field of a property: its name and type, and a slot that says
    whether it has a value of its own. -/
theorem BuilderField.ofProperty?_spec {p : Property} {f : BuilderField}
    (h : BuilderField.ofProperty? p = some f) :
    p.name = some f.name ∧ p.ty = some f.ty
      ∧ f.isRequired = (p.initial.isNone && !p.isOptional)
      ∧ ∀ s : Surroundings, f.starting s = (p.initial.map s.constant).getD .absent := by
  obtain ⟨hname, hty, hslot⟩ := BuilderField.of_ofProperty? h
  refine ⟨hname, hty, ?_⟩
  unfold BuilderField.isRequired BuilderField.starting
  rw [hslot, Property.slot]
  cases p.initial with
  | some e => exact ⟨rfl, fun _ => rfl⟩
  | none => cases p.isOptional <;> exact ⟨rfl, fun _ => rfl⟩

/-- A property and its builder field have the same name, are missing together and
    settle on the same value. -/
theorem BuilderField.ofProperty?_run {p : Property} {f : BuilderField}
    (h : BuilderField.ofProperty? p = some f) (calls : List (String × Value)) :
    f.key = p.key ∧ p.display = f.name.display ∧ p.isMissing calls = f.isMissing calls
      ∧ ∀ s : Surroundings, p.settled s calls = f.settled s calls := by
  obtain ⟨hname, -, hrequired, hstarting⟩ := BuilderField.ofProperty?_spec h
  have hkey : f.key = p.key := by
    rw [Property.key, hname]
    rfl
  have hpassed : (!calls.any fun c => c.1 = p.key) = (lastPassed calls p.key).isNone := by
    rw [Bool.eq_iff_iff, Option.isNone_iff_eq_none, lastPassed_eq_none_iff]
    simp
  refine ⟨hkey, ?_, ?_, ?_⟩
  · rw [Property.display, hname]
    rfl
  · rw [Property.isMissing, BuilderField.isMissing, hpassed, hrequired, hkey]
  · intro s
    rw [Property.settled, BuilderField.settled, hstarting s, hkey]

/-- The builder fields of typed properties, one by one. -/
theorem forall₂_builderFields (ps : List Property) :
    List.Forall₂ (fun p f => BuilderField.ofProperty? p = some f) (Property.typed ps)
      ((Property.typed ps).filterMap BuilderField.ofProperty?) := by
  refine forall₂_filterMap ?_
  intro p hp
  obtain ⟨name, ty, hname, hty⟩ := Property.exists_of_mem_typed hp
  rw [BuilderField.ofProperty?, hname, hty]
  rfl

/-- The result of a run of a builder that was made for some properties. -/
theorem Builder.run_properties {b : Builder} {ps : List Property}
    (hfields : b.fields = (Property.typed ps).filterMap BuilderField.ofProperty?)
    (hkeys : ((Property.typed ps).map Property.key).Nodup)
    (hmarker : ∀ p ∈ Property.typed ps, p.key ≠ Builder.markerName.text)
    {calls : List (String × Value)}
    (hcalls : ∀ c ∈ calls, ∃ p ∈ Property.typed ps, p.key = c.1) (s : Surroundings) :
    b.run s calls = match (Property.typed ps).find? (Property.isMissing calls) with
      | some p => .error (.failed (.missingField p.display))
      | none => .ok (.record b.target.name.text
          (entries Property.key (Property.settled s calls) (Property.typed ps)
            ++ phantomEntries b.phantoms)) := by
  have hrel := forall₂_builderFields ps
  rw [← hfields] at hrel
  have hmap : (Property.typed ps).map Property.key = b.fields.map BuilderField.key :=
    map_congr_of_forall₂ (f := Property.key) (g := BuilderField.key)
      (fun _ _ h => (BuilderField.ofProperty?_run h calls).1.symm) hrel
  have hentries : entries Property.key (Property.settled s calls) (Property.typed ps)
      = entries BuilderField.key (BuilderField.settled s calls) b.fields := by
    refine map_congr_of_forall₂ ?_ hrel
    intro p f h
    obtain ⟨hkey, -, -, hsettled⟩ := BuilderField.ofProperty?_run h calls
    rw [hkey, hsettled s]
  have hmem : ∀ k : String, (∃ f ∈ b.fields, f.key = k) ↔ ∃ p ∈ Property.typed ps, p.key = k := by
    intro k
    rw [← List.mem_map, ← List.mem_map, hmap]
  rw [Builder.run_fields (hmap ▸ hkeys) ?_ (fun c hc => (hmem c.1).mpr (hcalls c hc)) s, hentries]
  · have hmissing : ∀ p f, BuilderField.ofProperty? p = some f →
        p.isMissing calls = f.isMissing calls :=
      fun _ _ h => (BuilderField.ofProperty?_run h calls).2.2.1
    rcases find?_of_forall₂ hmissing hrel with ⟨hp, hf⟩ | ⟨p, f, hp, hf, h⟩
    · rw [hp, hf]
    · rw [hp, hf]
      show Except.error (Halt.failed (.missingField f.name.display)) = _
      rw [← (BuilderField.ofProperty?_run h calls).2.1]
  · intro f hf
    obtain ⟨p, hp, hkey⟩ := (hmem f.key).mp ⟨f, hf, rfl⟩
    rw [← hkey]
    exact hmarker p hp

/-- A builder is made for a structure with these properties. -/
structure Builder.IsFor (d : StructDecl) (ps : List Property) (b : Builder) : Prop where
  fields : b.fields = (Property.typed ps).filterMap BuilderField.ofProperty?
  target : b.target = ⟨d.name, d.generics⟩
  phantoms : b.phantoms = Property.phantoms ps
  name : d.name.builderName = .ok b.name

/-- A builder is not named as what it builds: its name is longer. -/
theorem Ident.text_ne_of_builderName {i name : Ident} (h : i.builderName = .ok name) :
    name.text ≠ i.text := by
  have hname : name.text = i.display ++ "Builder" := by
    rw [Ident.builderName, Ident.make] at h
    cases hvalid : Ident.validate (i.display ++ "Builder") with
    | error c => rw [hvalid] at h; cases h
    | ok =>
        rw [hvalid] at h
        rw [← Except.ok.inj h]
  intro hsame
  have hlength := congrArg String.length (hname.symm.trans hsame)
  rw [String.length_append, Ident.display] at hlength
  have hseven : "Builder".length = 7 := by decide
  split at hlength
  · rw [String.length_append] at hlength
    omega
  · omega

/-- So that for a structure is not named as the structure is. -/
theorem Builder.IsFor.name_ne {d : StructDecl} {ps : List Property} {b : Builder}
    (h : b.IsFor d ps) : b.name.text ≠ d.name.text :=
  Ident.text_ne_of_builderName h.name

theorem Builder.IsFor.name_ne_target {d : StructDecl} {ps : List Property} {b : Builder}
    (h : b.IsFor d ps) : b.name.text ≠ b.target.name.text := by
  rw [h.target]
  exact h.name_ne

/-- The builder that is made from the properties of a structure. -/
theorem Builder.isFor_ofTarget {a : Attachment} {d : StructDecl} {ps : List Property} {b : Builder}
    (h : Builder.ofTarget (.ofProperties a d ps) = .ok b) : b.IsFor d ps := by
  rw [Builder.ofTarget] at h
  cases hname : d.name.builderName with
  | error c =>
      rw [show (StructTarget.ofProperties a d ps).target.name = d.name from rfl, hname] at h
      cases h
  | ok name =>
      rw [show (StructTarget.ofProperties a d ps).target.name = d.name from rfl, hname] at h
      rw [← Except.ok.inj h]
      exact ⟨rfl, rfl, rfl, hname⟩

/-! ## The declared fields -/

/-- The fields of a structure that have a name, with their types. -/
def StructDecl.fieldTypes (d : StructDecl) : List (Ident × Tokens) :=
  d.fields.list.filterMap fun f => f.name.map fun name => (name, f.ty.tokens)

/-- The expression is written as the value of a field of the type. -/
def Property.WrittenFor (ps : List Property) (e : Expr) (ty : Tokens) : Prop :=
  ∃ p ∈ Property.stored ps, p.initial = some e ∧ p.ty.map Ty.tokens = some ty

/-- What the program of a builder for a structure declares: the fields of the builder, and those
    of the structure. -/
def Builder.declaredFor (b : Builder) (d : StructDecl) : Option Ident → List (Ident × Tokens)
  | none => b.code.fields b.name.text
  | some name => if name.text = d.name.text then d.fieldTypes else []

theorem Builder.fields_code (b : Builder) : b.code.fields b.name.text = b.declared := by
  simp [code, Program.fields, self]

theorem BuilderField.name_init (f : BuilderField) : f.init.name = f.name := by
  unfold BuilderField.init
  cases f.slot <;> rfl

/-- A builder starts with the fields that it declares. -/
theorem Builder.initial_eq_declared (b : Builder) :
    b.initial.map FieldInit.name = b.declared.map Prod.fst := by
  unfold Builder.initial Builder.declared phantomInits
  cases b.isGeneric <;> simp [BuilderField.name_init, Function.comp_def]

/-- A generic builder declares a field that mentions its target. -/
theorem Builder.exists_marker {b : Builder} (h : b.isGeneric = true) :
    ∃ of, (markerName, Tokens.globalPath ["core", "marker", "PhantomData"] ++ Tokens.op "<" ++ of
      ++ Tokens.op ">") ∈ b.declared := by
  refine ⟨[.word "fn", .parens []] ++ Tokens.op "->" ++ b.target.applied,
    List.mem_append_right _ ?_⟩
  rw [if_pos h, Tokens.core]
  simp

namespace BuilderField

section Types

variable {written : Expr → Tokens → Prop} {fields names : List (Ident × Tokens)} {p : Property}
  {f : BuilderField}

/-- The slot of a property: its own value, absence if its type allows that, or none. -/
theorem slot_cases (h : ofProperty? p = some f) :
    (∃ e, p.initial = some e ∧ f.slot = .defaulted e)
      ∨ ((∃ inner, f.ty.optionInner? = some inner) ∧ f.slot = .optional) ∨ f.slot = .required := by
  obtain ⟨-, hty, hslot⟩ := of_ofProperty? h
  rw [hslot, Property.slot]
  cases p.initial with
  | some e => exact .inl ⟨e, rfl, rfl⟩
  | none =>
      cases hoptional : p.isOptional with
      | false => exact .inr (.inr rfl)
      | true =>
          rw [Property.isOptional, Property.optionInner?, hty] at hoptional
          exact .inr (.inl ⟨Option.isSome_iff_exists.mp hoptional, rfl⟩)

/-- A field starts with a value of the type that is declared for it. -/
theorem hasType_init (h : ofProperty? p = some f)
    (hwritten : ∀ e, p.initial = some e → written e f.ty.tokens) :
    Code.HasType ⟨written, fields, names⟩ (f.init.code.code.getD (.bound f.name)) f.storedType := by
  rcases slot_cases h with ⟨e, he, hslot⟩ | ⟨⟨inner, hinner⟩, hslot⟩ | hslot
  · simp only [init, storedType, isRequired, hslot]
    exact .given (hwritten e he)
  · simp only [init, storedType, isRequired, hslot]
    exact .absentOf hinner
  · simp only [init, storedType, isRequired, hslot]
    exact .absent

/-- A setter stores a value of that type, if it is passed one of the property's type. -/
theorem hasType_setter (f : BuilderField) :
    Code.HasType ⟨written, fields, [(f.name, f.ty.tokens)]⟩
      (if f.isRequired then .present (.bound f.name) else .bound f.name) f.storedType := by
  have hbound : Code.HasType ⟨written, fields, [(f.name, f.ty.tokens)]⟩ (.bound f.name)
      f.ty.tokens := .bound (List.mem_singleton_self _)
  rw [storedType]
  cases f.isRequired with
  | true => exact .present hbound
  | false => exact hbound

/-- From such a value a value of the property's type is built. -/
theorem hasType_built (hfield : (f.name, f.storedType) ∈ fields) :
    Code.HasType ⟨written, fields, names⟩ (f.built.code.code.getD (.bound f.name))
      f.ty.tokens := by
  have hstored : Code.HasType ⟨written, fields, names⟩ (.field .self f.name) f.storedType :=
    .field hfield
  rw [storedType] at hstored
  rw [built]
  cases hrequired : f.isRequired with
  | true =>
      rw [hrequired] at hstored
      exact .presentOr hstored
  | false =>
      rw [hrequired] at hstored
      exact hstored

end Types

end BuilderField

section Declared

variable {d : StructDecl} {ps : List Property}

/-- The field of a property is declared with its type. -/
theorem StructDecl.mem_fieldTypes (hread : (Item.struct d).properties = .ok ps) {p : Property}
    (hp : p ∈ ps) {name : Ident} {ty : Ty} (hname : p.name = some name) (hty : p.ty = some ty) :
    (name, ty.tokens) ∈ d.fieldTypes := by
  obtain ⟨f, hf, hfp⟩ := exists_mem_of_forall₂ (Item.forall₂_properties hread) hp
  obtain ⟨hfieldName, hfieldTy, -⟩ := Property.ofField_fixed hfp
  rw [hfieldTy, Ty.explicit?] at hty
  refine List.mem_filterMap.mpr ⟨f, hf, ?_⟩
  rw [← hfieldName, hname]
  split at hty
  · cases hty
  · rw [← Option.some.inj hty]
    rfl

theorem StructDecl.map_fst_fieldTypes (d : StructDecl) :
    d.fieldTypes.map Prod.fst = d.fields.list.filterMap Field.name := by
  rw [StructDecl.fieldTypes, List.map_filterMap]
  refine List.filterMap_congr ?_
  intro f _
  cases f.name <;> rfl

/-- A field that holds no data is declared with a type of such values. -/
theorem StructDecl.exists_phantom_type (hread : (Item.struct d).properties = .ok ps) {name : Ident}
    (hname : name ∈ Property.phantoms ps) :
    ∃ ty : Ty, (name, ty.tokens) ∈ d.fieldTypes ∧ ty.isPhantom = true := by
  obtain ⟨p, hp, hpname⟩ := List.mem_filterMap.mp hname
  obtain ⟨hp, hcomputed⟩ := List.mem_filter.mp hp
  rw [Bool.and_eq_true, Property.isComputed] at hcomputed
  cases hty : p.ty with
  | none => rw [hty] at hcomputed; cases hcomputed.1
  | some ty =>
      rw [hty] at hcomputed
      exact ⟨ty, StructDecl.mem_fieldTypes hread hp hpname hty, hcomputed.1⟩

/-- What holds data and what holds none are all properties that have a name. -/
theorem Property.perm_names (hread : (Item.struct d).properties = .ok ps) :
    ((Property.stored ps).filterMap Property.name ++ Property.phantoms ps).Perm
      (d.fields.list.filterMap Field.name) := by
  have hstored : Property.stored ps
      = (ps.filter fun p => p.name.isSome).filter fun p => !p.isComputed := by
    rw [Property.stored, List.filter_filter]
    refine List.filter_congr ?_
    intro p hp
    obtain ⟨f, -, hfp⟩ := exists_mem_of_forall₂ (Item.forall₂_properties hread) hp
    rw [(Property.ofField_fixed hfp).2.2, Property.isStored, Bool.not_false, Bool.and_true]
  have hcomputed : (ps.filter fun p => p.isComputed && p.name.isSome)
      = (ps.filter fun p => p.name.isSome).filter fun p => p.isComputed :=
    (List.filter_filter ..).symm
  have hnamed : (ps.filter fun p => p.name.isSome).filterMap Property.name
      = d.fields.list.filterMap Field.name := by
    rw [← Item.filterMap_name_properties hread, List.filterMap_filter]
    refine List.filterMap_congr ?_
    intro p _
    cases p.name <;> rfl
  rw [Property.phantoms, hcomputed, hstored, ← List.filterMap_append, ← hnamed]
  exact (List.perm_append_comm.trans (List.filter_append_perm _ _)).filterMap _

namespace Builder.IsFor

variable {b : Builder}

/-- The fields of the builder bear the names of the typed properties. -/
theorem map_name (h : b.IsFor d ps) :
    b.fields.map BuilderField.name = (Property.typed ps).filterMap Property.name := by
  rw [h.fields, ← List.filterMap_eq_map]
  symm
  refine filterMap_congr_of_forall₂ ?_ (forall₂_builderFields ps)
  intro p f hpf
  exact (BuilderField.of_ofProperty? hpf).1

/-- A text that is the key of no typed property is not that of a field of the builder. -/
theorem key_ne (h : b.IsFor d ps) {text : String} (htext : ∀ p ∈ Property.typed ps, p.key ≠ text) :
    ∀ f ∈ b.fields, f.key ≠ text := by
  intro f hf
  rw [h.fields] at hf
  obtain ⟨p, hp, hpf⟩ := List.mem_filterMap.mp hf
  rw [(BuilderField.ofProperty?_run hpf []).1]
  exact htext p hp

/-- What is built has a field for each one of the structure. -/
theorem perm_built (h : b.IsFor d ps) (hread : (Item.struct d).properties = .ok ps)
    (htyped : Property.typed ps = Property.stored ps) :
    (b.built.map FieldInit.name).Perm (d.fields.list.filterMap Field.name) := by
  have hfields : (b.fields.map BuilderField.built).map FieldInit.name
      = (Property.stored ps).filterMap Property.name := by
    rw [List.map_map, ← htyped, ← h.map_name]
    rfl
  have hphantoms : (phantomInits b.phantoms).map FieldInit.name = Property.phantoms ps := by
    rw [h.phantoms, phantomInits, List.map_map]
    exact List.map_id _
  rw [Builder.built, List.map_append, hfields, hphantoms]
  exact Property.perm_names hread

theorem declaredFor_target (h : b.IsFor d ps) :
    b.declaredFor d (some b.target.name) = d.fieldTypes := by
  rw [h.target]
  exact if_pos rfl

/-- A field of the builder is declared with its type, and that of the structure with its own. -/
theorem declares (h : b.IsFor d ps) (hread : (Item.struct d).properties = .ok ps)
    {f : BuilderField} (hf : f ∈ b.fields) :
    (f.name, f.storedType) ∈ b.declaredFor d none
      ∧ (f.name, f.ty.tokens) ∈ b.declaredFor d (some b.target.name) := by
  have hown : b.declaredFor d none = b.declared := b.fields_code
  rw [hown, h.declaredFor_target]
  refine ⟨List.mem_append_left _ (List.mem_map_of_mem hf), ?_⟩
  rw [h.fields] at hf
  obtain ⟨p, hp, hpf⟩ := List.mem_filterMap.mp hf
  obtain ⟨hname, hty, -⟩ := BuilderField.of_ofProperty? hpf
  have hmem : p ∈ ps := List.mem_of_mem_filter (List.mem_of_mem_filter hp)
  exact StructDecl.mem_fieldTypes hread hmem hname hty

/-- A new builder has the fields that are declared for it, of their types. -/
theorem newMethod_fits (h : b.IsFor d ps) (hread : (Item.struct d).properties = .ok ps) :
    b.newMethod.Fits (Property.WrittenFor ps) (b.declaredFor d) := by
  have hown : b.declaredFor d none = b.declared := b.fields_code
  refine .literal ⟨?_, ?_⟩
  · show ((b.initial.map FieldInit.code).map FieldCode.name).Perm
      ((b.declaredFor d none).map Prod.fst)
    rw [hown, ← b.initial_eq_declared, List.map_map]
    exact .refl _
  · intro code hcode
    obtain ⟨init, hinit, rfl⟩ := List.mem_map.mp hcode
    rcases List.mem_append.mp hinit with hfield | hmarker
    · obtain ⟨f, hf, rfl⟩ := List.mem_map.mp hfield
      have hname : f.init.code.name = f.name := f.name_init
      rw [hname]
      refine ⟨_, (h.declares hread hf).1, ?_⟩
      rw [h.fields] at hf
      obtain ⟨p, hp, hpf⟩ := List.mem_filterMap.mp hf
      refine BuilderField.hasType_init hpf ?_
      intro e he
      -- the author wrote the expression for the type of this property
      refine ⟨p, List.mem_of_mem_filter hp, he, ?_⟩
      rw [(BuilderField.of_ofProperty? hpf).2.1]
      rfl
    · obtain ⟨name, hname, rfl⟩ := List.mem_map.mp hmarker
      cases hgeneric : b.isGeneric with
      | false => rw [hgeneric] at hname; exact absurd hname List.not_mem_nil
      | true =>
          rw [hgeneric] at hname
          obtain rfl := List.mem_singleton.mp hname
          obtain ⟨of, hdeclared⟩ := Builder.exists_marker hgeneric
          exact ⟨_, hown ▸ hdeclared, .phantom⟩

/-- What is built has the fields of the structure, of their types. -/
theorem buildMethod_fits (h : b.IsFor d ps) (hread : (Item.struct d).properties = .ok ps)
    (htyped : Property.typed ps = Property.stored ps) :
    b.buildMethod.Fits (Property.WrittenFor ps) (b.declaredFor d) := by
  refine .success ⟨?_, ?_⟩
  · show ((b.built.map FieldInit.code).map FieldCode.name).Perm
      ((b.declaredFor d (some b.target.name)).map Prod.fst)
    rw [h.declaredFor_target, d.map_fst_fieldTypes, List.map_map]
    exact h.perm_built hread htyped
  · intro code hcode
    obtain ⟨init, hinit, rfl⟩ := List.mem_map.mp hcode
    rcases List.mem_append.mp hinit with hfield | hphantom
    · obtain ⟨f, hf, rfl⟩ := List.mem_map.mp hfield
      obtain ⟨hstored, hbuilt⟩ := h.declares hread hf
      exact ⟨_, hbuilt, BuilderField.hasType_built hstored⟩
    · obtain ⟨name, hname, rfl⟩ := List.mem_map.mp hphantom
      obtain ⟨ty, hdeclared, hty⟩ := StructDecl.exists_phantom_type hread (h.phantoms ▸ hname)
      exact ⟨ty.tokens, h.declaredFor_target ▸ hdeclared, .phantomOf hty⟩

/-- **The templates of a builder agree.**  Each function of a builder for a structure without
    untyped fields fits what is declared: a new builder has the fields that the builder declares,
    of their types; a setter takes a value of the type of the structure's field and stores one of
    the type of the builder's field; and what is built has the fields of the structure, of their
    types. -/
theorem methods_fit (h : b.IsFor d ps) (hread : (Item.struct d).properties = .ok ps)
    (htyped : Property.typed ps = Property.stored ps) :
    ∀ m ∈ b.methods, m.Fits (Property.WrittenFor ps) (b.declaredFor d) := by
  intro m hm
  rcases List.mem_cons.mp hm with rfl | hm
  · exact h.newMethod_fits hread
  rcases List.mem_append.mp hm with hm | hm
  · obtain ⟨t, ht, rfl⟩ := List.mem_map.mp hm
    obtain ⟨f, hf, rfl⟩ := List.mem_map.mp ht
    exact .replace (h.declares hread hf).1 f.hasType_setter
  · obtain rfl := List.mem_singleton.mp hm
    exact h.buildMethod_fits hread htyped

end Builder.IsFor

end Declared

/-! ## The builder that the macro emits -/

/-- The names of a builder's own members. -/
def Builder.ownNames : List String := ["new", "build", Builder.markerName.text]

/-- **What a builder builds.**  For a structure with different names, none of which is that of a
    member of the builder itself, for which a builder is emitted and nothing is reported: what is
    emitted is a program whose functions fit the fields that it declares and those of the
    structure.  And for every sequence of setter calls on a builder that the program makes, the
    build fails with the first field that has no value of its own, cannot be absent and was never
    set; or else it gives the structure in which every field holds the last value that was set,
    its own value, or absence, and the fields that carry no data are there. -/
theorem Builder.run_eq_missing_or_settled (s : Surroundings) (a : Attachment) (d : StructDecl)
    (ps : List Property) (b : Builder) (calls : List (String × Value))
    (hread : (Item.struct d).properties = .ok ps)
    (hbuilder : Builder.expand a (.struct d) = .ok { items := [b] })
    (hnames : ((d.fields.list.filterMap Field.name).map Ident.text).Nodup)
    (hown : ∀ name ∈ d.fields.list.filterMap Field.name, name.text ∉ Builder.ownNames)
    (hcalls : ∀ c ∈ calls, ∃ p ∈ Property.stored ps, p.key = c.1) :
    b.tokens = b.code.tokens
      ∧ (∀ m ∈ b.code.methods b.name.text, m.Fits (Property.WrittenFor ps) (b.declaredFor d))
      ∧ b.run s calls = b.code.build s d.name.text calls
      ∧ b.code.build s d.name.text calls
        = match (Property.stored ps).find? (Property.isMissing calls) with
          | some p => .error (.failed (.missingField p.display))
          | none => .ok (.record d.name.text
              ((Property.stored ps).map (fun p => (p.key, p.settled s calls))
                ++ (Property.phantoms ps).map fun name => (name.text, .phantom))) := by
  obtain ⟨hgenerated, hreports⟩ :=
    of_mem_expandStruct hread hbuilder (List.mem_singleton_self b)
  have hfor := Builder.isFor_ofTarget hgenerated
  have htyped := Property.typed_eq_stored hreports.symm
  have hkeys := Property.nodup_key_typed hread hnames
  have hkey : ∀ own ∈ Builder.ownNames, ∀ p ∈ Property.typed ps, p.key ≠ own := by
    intro own hmem
    refine Property.key_ne_of_mem_typed hread ?_
    intro name hname hsame
    exact hown name hname (hsame ▸ hmem)
  have hrun : b.code.build s d.name.text calls = b.run s calls := by
    have hbuild := Builder.build_eq_run s (Builder.offeredBy_code hfor.name_ne_target)
      (hfor.key_ne (hkey "new" (by simp [ownNames])))
      (hfor.key_ne (hkey "build" (by simp [ownNames]))) calls
    rwa [hfor.target] at hbuild
  refine ⟨b.tokens_eq_code, ?_, hrun.symm, ?_⟩
  · rw [Builder.methods_code hfor.name_ne_target]
    exact hfor.methods_fit hread htyped
  · rw [← htyped] at hcalls ⊢
    rw [hrun, Builder.run_properties hfor.fields hkeys
      (hkey _ (by simp [ownNames])) hcalls s, hfor.target, hfor.phantoms]
    cases (Property.typed ps).find? (Property.isMissing calls) <;> rfl

/-- A request without its address fails on that, whatever else is set; with it,
    the timeout is the one that was set last. -/
theorem Sample.request_run_eq_missing_or_settled :
    ∃ d ps b, Sample.request.item? = some (.struct d)
      ∧ (Item.struct d).properties = .ok ps
      ∧ Builder.expand {} (.struct d) = .ok { items := [b] }
      ∧ b.tokens = b.code.tokens
      ∧ b.code.build Sample.surroundings d.name.text [("timeout", .number 5)]
        = .error (.failed (.missingField "url"))
      ∧ b.code.build Sample.surroundings d.name.text
          [("timeout", .number 5), ("url", .text "a"), ("timeout", .number 7)]
        = .ok (.record d.name.text ((Property.stored ps).map fun p =>
            (p.key, p.settled Sample.surroundings
              [("timeout", .number 5), ("url", .text "a"), ("timeout", .number 7)]))) := by
  have hcheck : (Sample.request.struct?.any fun d =>
      ((d.fields.list.filterMap Field.name).map Ident.text).Nodup
        && (d.fields.list.filterMap Field.name).all (fun name => name.text ∉ Builder.ownNames)
        && ((Item.struct d).properties.toOption.any fun ps =>
          (Property.stored ps).map Property.key = ["url", "body", "timeout"]
            && ((Property.stored ps).find? (Property.isMissing [("timeout", .number 5)])).map
              Property.display = some "url"
            && ((Property.stored ps).find? (Property.isMissing
              [("timeout", .number 5), ("url", .text "a"), ("timeout", .number 7)])).isNone
            && (Property.phantoms ps).isEmpty)
        && ((Builder.expand {} (.struct d)).toOption.any fun e =>
          e.items.length = 1 && e.diagnostics.isEmpty)) = true := by decide +kernel
  obtain ⟨d, hd, hall⟩ := (Option.any_eq_true _ _).mp hcheck
  simp only [Bool.and_eq_true, decide_eq_true_eq, List.all_eq_true] at hall
  obtain ⟨⟨⟨hnames, hown⟩, hproperties⟩, hexpand⟩ := hall
  obtain ⟨ps, hread, hproperties⟩ := (Option.any_eq_true _ _).mp hproperties
  obtain ⟨e, hbuilder, hexpand⟩ := (Option.any_eq_true _ _).mp hexpand
  have hread := eq_ok_of_toOption hread
  have hbuilder := eq_ok_of_toOption hbuilder
  simp only [Bool.and_eq_true, decide_eq_true_eq] at hproperties hexpand
  obtain ⟨⟨⟨hkeys, hmissing⟩, hcomplete⟩, hphantoms⟩ := hproperties
  obtain ⟨b, hb⟩ := List.length_eq_one_iff.mp hexpand.1
  have hemits : Builder.expand {} (.struct d) = .ok { items := [b] } := by
    rw [hbuilder, ← hb, ← List.isEmpty_iff.mp hexpand.2]
  have hrun := fun calls hcalls => Builder.run_eq_missing_or_settled
    Sample.surroundings {} d ps b calls hread hemits hnames hown hcalls
  have hmem : ∀ k ∈ ["url", "body", "timeout"], ∃ p ∈ Property.stored ps, p.key = k := by
    intro k hk
    rw [← hkeys] at hk
    exact List.mem_map.mp hk
  have htimeout := hmem "timeout" (by simp)
  obtain ⟨htokens, -, -, hfails⟩ := hrun [("timeout", .number 5)] (by simpa using htimeout)
  obtain ⟨-, -, -, hbuilds⟩ := hrun
    [("timeout", .number 5), ("url", .text "a"), ("timeout", .number 7)]
    (by simpa using ⟨htimeout, hmem "url" (by simp), htimeout⟩)
  refine ⟨d, ps, b, Sample.item?_of_struct? hd, hread, hemits, htokens, ?_, ?_⟩
  · obtain ⟨p, hp, hurl⟩ := Option.map_eq_some_iff.mp hmissing
    rw [hfails, hp]
    show Except.error (Halt.failed (.missingField p.display)) = _
    rw [hurl]
  · rw [hbuilds, Option.isNone_iff_eq_none.mp hcomplete, List.isEmpty_iff.mp hphantoms,
      List.map_nil, List.append_nil]

end DeclMacros
