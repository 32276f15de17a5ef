import DeclMacros.Proofs.Containers
import DeclMacros.Proofs.Refinement

/-! # Conversions of structures

    A generated conversion writes, for each field that holds data, an expression over the
    raw field of the same name.  A marked field is converted by its own type; where that is
    optional, the code maps over the optional value instead, and the two are the same since
    an optional type is one of the containers (`Field.HasConversion.eval_eq`).

    The route: the fields of the structure and the expressions that are written for them go
    together one by one (`forall₂_hasConversion`), so from a raw value with these fields the
    literal makes the record of what each field is converted to.  Of the three functions of
    the program, two do nothing but call the one that makes the literal (`callTrait_entry`). -/

set_option autoImplicit false

namespace DeclMacros

/-! ## Fields -/

namespace Field

/-- The text of the name of a field. -/
def key (f : Field) : String := (f.name.map Ident.text).getD ""

/-- The field is marked to be converted by its own type. -/
def isParseable (f : Field) : Bool := f.attrs.any (·.isMarker .parseable)

/-- What a conversion makes of the raw field: a marked field is converted by its own type,
    and any other is taken as it is. -/
def converted (s : Surroundings) (f : Field) (v : Value) : Value :=
  if f.isParseable then s.parse f.ty v else v

end Field

/-- The field is written as an expression that evaluates to what becomes of its raw field. -/
def Field.WrittenAs (s : Surroundings) (f : Field) (written : FieldCode) : Prop :=
  f.name = some written.name ∧ ∀ (scope : Scope) (raw v : Value),
    scope.names.lookup rawName.text = some raw → raw.field? written.name.text = some v →
    written.eval s scope = .ok (f.key, f.converted s v)

section Structure

variable {s : Surroundings} {d : StructDecl} {ps : List Property}

/-- A property holds no data exactly when the type of its field holds none. -/
theorem isComputed_of_ofField {f : Field} {p : Property} (h : Property.ofField f = .ok p) :
    p.isComputed = f.ty.isPhantom := by
  obtain ⟨-, hty, -⟩ := Property.ofField_fixed h
  rw [Property.isComputed, hty, Ty.explicit?]
  cases f.ty <;> rfl

/-- The fields without data, by their properties or by their types. -/
theorem phantoms_eq_filterMap (hread : (Item.struct d).properties = .ok ps) :
    Property.phantoms ps = d.phantomFields.filterMap Field.name := by
  rw [Property.phantoms, StructDecl.phantomFields, List.filterMap_filter, List.filterMap_filter]
  symm
  refine filterMap_congr_of_forall₂ ?_ (Item.forall₂_properties hread)
  intro f p hfp
  rw [isComputed_of_ofField hfp, ← (Property.ofField_fixed hfp).1]
  cases f.ty.isPhantom <;> cases p.name <;> rfl

/-- The marker of a property is that of its field. -/
theorem recursiveParse_of_ofField {f : Field} {p : Property} (h : Property.ofField f = .ok p) :
    p.recursiveParse = f.isParseable := by
  obtain ⟨-, -, hattrs, -, -⟩ := Property.foldlM_withAttr_fixed h
  rw [Property.recursiveParse, hattrs, Field.isParseable]

/-- A field and what a conversion writes for its property. -/
def Field.HasConversion (f : Field) (init : FieldInit) : Prop :=
  ∃ p, Property.ofField f = .ok p ∧ p.conversion? = some init

namespace Field.HasConversion

variable {f : Field} {init : FieldInit}

theorem name_eq (h : f.HasConversion init) : f.name = some init.name := by
  obtain ⟨p, hfield, hinit⟩ := h
  exact (Property.ofField_fixed hfield).1 ▸ Property.name_of_conversion? hinit

/-- The value that is written for a property is the raw field, or what the type makes of it;
    inside an optional value or not, that is the same. -/
theorem eval_eq (h : f.HasConversion init) {frame : Frame} {v : Value}
    (hv : frame.raw.field? init.name.text = some v) :
    init.eval s frame = .ok (f.key, f.converted s v) := by
  have hkey : f.key = init.name.text := by
    rw [Field.key, h.name_eq]
    rfl
  have hraw : FieldValue.eval.rawField frame init.name = .ok v := by
    rw [FieldValue.eval.rawField, hv]
    rfl
  obtain ⟨p, hfield, hinit⟩ := h
  have hname := Property.name_of_conversion? hinit
  rw [FieldInit.eval, hkey]
  cases hty : p.ty with
  | none =>
      rw [Property.conversion?, hname, hty] at hinit
      cases hinit
  | some ty =>
      rw [Property.conversion?, hname, hty] at hinit
      have hvalue := congrArg FieldInit.value (Option.some.inj hinit)
      rw [← hvalue, Field.converted, ← recursiveParse_of_ofField hfield,
        Property.ty_eq_of_ofField hfield hty]
      cases p.recursiveParse with
      | false => exact congrArg (Except.map _) hraw
      | true =>
          show (FieldValue.eval s frame init.name _).map _ = .ok (_, s.parse ty v)
          cases hinner : ty.optionInner? with
          | none =>
              show ((FieldValue.eval.rawField frame init.name).map (s.parse ty)).map _ = _
              rw [hraw]
              rfl
          | some inner =>
              -- the code maps over the optional value, and so does the conversion to its type
              show ((FieldValue.eval.rawField frame init.name).map
                (Container.option.map (s.parse inner))).map _ = _
              rw [hraw, s.parse_of_container? (Ty.container?_of_optionInner? hinner)]
              rfl

/-- So is that of the expression that is printed. -/
theorem writtenAs (h : f.HasConversion init) : f.WrittenAs s init.code := by
  refine ⟨h.name_eq, ?_⟩
  intro scope raw v hraw hv
  obtain ⟨p, -, hinit⟩ := id h
  have hseen : init.value.SeenIn scope { raw := raw } :=
    Conversion.seenIn_of_conversion? hinit hraw
  rw [FieldInit.eval_code hseen]
  exact h.eval_eq hv

end Field.HasConversion

/-- The fields of a structure and what a conversion writes for them, one by one. -/
theorem forall₂_hasConversion (hread : (Item.struct d).properties = .ok ps) {c : Conversion}
    (hc : c.IsFor d ps) : List.Forall₂ Field.HasConversion d.typedFields c.values := by
  rw [hc.values]
  exact forall₂_trans (StructDecl.forall₂_typedFields hread) (forall₂_conversions ps)

/-! ## Conversions -/

namespace Conversion

/-- A conversion does to each field of a structure what its type and its marker say. -/
structure Converts (s : Surroundings) (d : StructDecl) (c : Conversion) : Prop where
  /-- What is emitted for it is a program, -/
  printed : c.tokens = c.code.tokens
  /-- with one literal, in which each field that holds data is written, in order. -/
  values : ∃ m l values phantoms, c.code.literals d.name.text = [(m, l)]
    ∧ m.name.text = "from_raw" ∧ l.fields = values ++ phantoms
    ∧ List.Forall₂ (Field.WrittenAs s) d.typedFields values
  /-- So the structure is made from any raw value that has the fields. -/
  record : ∀ (raw : Value) (val : Field → Value),
    (∀ f ∈ d.typedFields, raw.field? f.key = some (val f)) →
    c.code.call s d.name.text "from_raw" none [raw] = .ok (.record d.name.text
      (entries Field.key (fun f => f.converted s (val f)) d.typedFields
        ++ phantomEntries (d.phantomFields.filterMap Field.name)))
  /-- The functions of the two traits answer the same, whatever the raw value is. -/
  agree : ∀ raw, ∀ name ∈ ["parse", "from"],
    c.code.callTrait s d.name.text name [raw] = c.code.call s d.name.text "from_raw" none [raw]

section Calls

variable {c : Conversion}

/-- The function that does the work is found under its name. -/
theorem call_code (hc : c.IsFor d ps) (raw : Value) :
    c.code.call s d.name.text "from_raw" none [raw] = c.call s raw
      ∧ c.code.callPlain s d.name.text "from_raw" [raw] = c.call s raw := by
  have hvalues : ∀ f ∈ c.values, ∃ p : Property, p.conversion? = some f := by
    intro f hf
    rw [hc.values] at hf
    obtain ⟨p, -, hp⟩ := List.mem_filterMap.mp hf
    exact ⟨p, hp⟩
  have hname : c.target.name.text = d.name.text := by rw [hc.target]
  have hfind : (c.code.methods d.name.text).find? (fun m => m.name.text = "from_raw")
      = some c.fromRaw := by
    rw [← hname, c.methods_code]
    rfl
  rw [Program.call, Program.callPlain, Method.callNamed, Method.callNamed, hfind, ← hname]
  exact ⟨call_fromRaw s _ hvalues raw, call_fromRaw s _ hvalues raw⟩

/-- The functions of the traits call it. -/
theorem callTrait_entry (hc : c.IsFor d ps) {name : String} (hname : name ∈ ["parse", "from"])
    (raw : Value) : c.code.callTrait s d.name.text name [raw] = c.call s raw := by
  have htarget : c.target.name.text = d.name.text := by rw [hc.target]
  have hfind : (c.code.traitMethods d.name.text).find? (fun m => m.name.text = name)
      = some (c.entry name) := by
    rw [← htarget, c.traitMethods_code]
    simp only [List.mem_cons, List.not_mem_nil, or_false] at hname
    rcases hname with rfl | rfl <;> rfl
  rw [Program.callTrait, Method.callNamed, hfind, ← (call_code hc raw).2]
  rfl

end Calls

/-- The conversion that is made from the properties of a structure does what its fields
    say. -/
theorem IsFor.converts {c : Conversion} (hc : c.IsFor d ps) (s : Surroundings)
    (hread : (Item.struct d).properties = .ok ps) : c.Converts s d where
  printed := c.tokens_eq_code
  values := by
    have hliterals := c.literals_code
    rw [hc.target] at hliterals
    refine ⟨_, _, c.values.map FieldInit.code, (phantomInits c.phantoms).map FieldInit.code,
      hliterals, rfl, List.map_append, ?_⟩
    exact List.forall₂_map_right_iff.mpr
      ((forall₂_hasConversion hread hc).imp fun _ _ h => h.writtenAs)
  record := by
    intro raw val hraw
    -- the literal is walked along fields and expressions side by side
    obtain ⟨hlength, hzip⟩ := List.forall₂_iff_zip.mp (forall₂_hasConversion hread hc)
    have heval : ∀ x ∈ d.typedFields.zip c.values,
        x.2.eval s { raw := raw } = .ok (x.1.key, x.1.converted s (val x.1)) := by
      rintro ⟨f, init⟩ hx
      have hwritten := hzip hx
      have hv := hraw f (List.of_mem_zip hx).1
      rw [Field.key, hwritten.name_eq] at hv
      exact hwritten.eval_eq hv
    have hliteral := literalValue_ok heval d.name (Property.phantoms ps)
    rw [List.map_snd_zip hlength.ge] at hliteral
    rw [(call_code hc raw).1, ← phantoms_eq_filterMap hread, Conversion.call, Conversion.literal,
      hc.target, hc.phantoms]
    refine hliteral.trans ?_
    congr 3
    conv_rhs => rw [← List.map_fst_zip hlength.le]
    rw [entries, entries, List.map_map]
    rfl
  agree := by
    intro raw name hname
    rw [callTrait_entry hc hname, (call_code hc raw).1]

/-- **Conversions keep the shape and convert each leaf once.**  Through containers a value
    is converted to the one value of the same shape whose leaves are the converted leaves, in
    order; and the conversion to a type goes through the containers that the type is a nesting
    of.  For every structure with something to generate from, the macro emits one conversion,
    whose program does to each field what its type and its marker say, under each of the names of
    its functions. -/
theorem converts_leaves_in_place (s : Surroundings) :
    (∀ (leaf : Value → Value) cs v, Container.Fits cs v → ∀ w,
        Container.parse leaf cs v = w ↔ Container.SameShape cs v w
          ∧ Container.leaves cs w = (Container.leaves cs v).map leaf)
      ∧ (∀ ty, ∃ cs leaf, Ty.Nests ty cs leaf)
      ∧ (∀ ty cs leaf, Ty.Nests ty cs leaf →
        s.parse ty = Container.parse (s.convert leaf) cs)
      ∧ ∀ (a : Attachment) (source : Ty) (d : StructDecl), a.source = some source → d.IsBuilt →
        ∃ c diagnostics, expand a (.struct d) = .ok ⟨[c], diagnostics⟩ ∧ c.Converts s d := by
  refine ⟨?_, Ty.exists_nests, ?_, ?_⟩
  · intro leaf cs v hfits w
    exact Container.parse_eq_iff leaf hfits
  · intro ty cs leaf hnests
    exact s.parse_of_nests hnests
  · intro a source d hsource hbuilt
    obtain ⟨ps, hread, htyped⟩ := d.isBuilt_iff.mp hbuilt
    have hfor : (ofTarget source (.ofProperties a d ps)).IsFor d ps := ⟨rfl, rfl, rfl⟩
    refine ⟨_, (requireTypes .conversion (Property.stored ps)).2, ?_, hfor.converts s hread⟩
    have hsome : ¬(Property.typed ps).isEmpty = true := by
      rwa [List.isEmpty_iff]
    unfold expand
    rw [hsource]
    show expandStruct .conversion a (.struct d) _ = _
    rw [expandStruct_eq .conversion a hread, if_neg hsome]
    rfl

end Conversion

end Structure

namespace Sample

/-- A traveller with addresses in containers, and a field without data. -/
def traveller : Sample where
  source := "struct Traveller<T> \x7b name: String, of: PhantomData<T>, "
    ++ "#[auto_parseable] homes: Option<Vec<Box<Address>>> \x7d"

/-- Surroundings that put each leaf that they convert into a tuple. -/
def tupling : Surroundings where
  constant := fun _ => .absent
  stubOf := fun _ => .absent
  convert := fun _ v => .tuple "Address" [v]

/-- A raw traveller. -/
def journey : Value :=
  .record "TravellerDto" [("name", .text "Ana"),
    ("homes", .present (.list [.boxed (.number 1), .boxed (.number 2)]))]

/-- The traveller is converted, the marked fields through their containers. -/
theorem traveller_converts_leaves_in_place :
    ∃ d c diagnostics, traveller.struct? = some d
      ∧ Conversion.expand { source := some (.path (.ofIdent { text := "TravellerDto" })) }
        (.struct d) = .ok ⟨[c], diagnostics⟩
      ∧ c.Converts tupling d
      ∧ (∃ fields, c.code.callTrait tupling "Traveller" "from" [journey]
          = .ok (.record "Traveller" fields)
        ∧ fields.map Prod.fst = ["name", "homes", "of"])
      ∧ (∃ f ∈ d.typedFields, f.isParseable = true ∧ ∃ leaf,
        Ty.Nests f.ty [.option, .list, .box] leaf
          ∧ tupling.parse f.ty
            = Container.parse (tupling.convert leaf) [.option, .list, .box])
      ∧ Container.leaves [.option, .list, .box] (Container.parse (.tuple "Address" [·])
          [.option, .list, .box] (.present (.list [.boxed (.number 1), .boxed (.number 2)])))
        = [.tuple "Address" [.number 1], .tuple "Address" [.number 2]] := by
  obtain ⟨hlaw, hnests, hparse, hconverts⟩ := Conversion.converts_leaves_in_place tupling
  have hcheck : (traveller.struct?.any fun d => decide (d.IsBuilt ∧ d.name.text = "Traveller"
      ∧ (d.typedFields.map Field.key ++ (d.phantomFields.filterMap Field.name).map Ident.text
        = ["name", "homes", "of"])
      ∧ (∀ f ∈ d.typedFields, (journey.field? f.key).isSome = true)
      ∧ ∃ f ∈ d.typedFields, f.isParseable = true
        ∧ f.ty.layers.1 = [.option, .list, .box])) = true := by
    decide +kernel
  obtain ⟨d, hd, hfacts⟩ := (Option.any_eq_true _ _).mp hcheck
  obtain ⟨hbuilt, hname, hkeys, hfields, f, hf, hmarked, hlayers⟩ := of_decide_eq_true hfacts
  obtain ⟨c, diagnostics, hexpand, hc⟩ :=
    hconverts { source := some (.path (.ofIdent { text := "TravellerDto" })) } _ d rfl hbuilt
  refine ⟨d, c, diagnostics, hd, hexpand, hc, ?_, ?_, ?_⟩
  · have hraw : ∀ f ∈ d.typedFields, journey.field? f.key
        = some ((journey.field? f.key).getD .absent) := by
      intro f hf
      obtain ⟨v, hv⟩ := Option.isSome_iff_exists.mp (hfields f hf)
      rw [hv]
      rfl
    have hrecord := hc.record journey _ hraw
    have hfrom := hc.agree journey "from" (by simp)
    rw [hname] at hrecord hfrom
    refine ⟨_, hfrom.trans hrecord, ?_⟩
    rw [← hkeys, List.map_append, entries, phantomEntries, List.map_map, List.map_map]
    rfl
  · obtain ⟨cs, leaf, hf'⟩ := hnests f.ty
    rw [hf'.layers_eq] at hlayers
    obtain rfl : cs = [.option, .list, .box] := hlayers
    exact ⟨f, hf, hmarked, leaf, hf', hparse _ _ _ hf'⟩
  · have hfits : Container.Fits [.option, .list, .box]
        (.present (.list [.boxed (.number 1), .boxed (.number 2)])) := by
      refine .present (.list ?_)
      simp only [List.forall_mem_cons]
      exact ⟨.boxed (.leaf _), .boxed (.leaf _), List.forall_mem_nil _⟩
    exact ((hlaw (.tuple "Address" [·]) _ _ hfits _).mp rfl).2

end Sample

end DeclMacros
