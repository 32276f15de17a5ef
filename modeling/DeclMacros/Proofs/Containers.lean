import DeclMacros.Proofs.Hygiene

/-! # Conversion through containers, in place

    A conversion of leaves is carried through optional values, lists and boxes.  What
    comes out has the shape of what went in, and its leaves are the converted leaves in
    order; and there is only one such value (`parse_eq_iff`).  Both directions are an
    induction on the shape, where a list splits its leaves among its elements by their
    numbers.

    The containers are those that the type is written with.  A type has more tokens than
    the one that it holds, so the bound on their depth is never reached
    (`Nests.layers_eq`), and a conversion can be followed layer by layer
    (`parse_of_container?`). -/

set_option autoImplicit false

namespace DeclMacros

/-! ## Shapes and leaves -/

namespace Container

/-- The value is one of a type that the containers make of some innermost type. -/
inductive Fits : List Container → Value → Prop where
  | leaf (v : Value) : Fits [] v
  | absent (cs : List Container) : Fits (.option :: cs) .absent
  | present {cs : List Container} {v : Value} (held : Fits cs v) :
      Fits (.option :: cs) (.present v)
  | list {cs : List Container} {vs : List Value} (each : ∀ v ∈ vs, Fits cs v) :
      Fits (.list :: cs) (.list vs)
  | boxed {cs : List Container} {v : Value} (held : Fits cs v) : Fits (.box :: cs) (.boxed v)

/-- The values differ in their leaves at most: the same optional values are absent, and lists
    have the same lengths. -/
inductive SameShape : List Container → Value → Value → Prop where
  | leaf (v w : Value) : SameShape [] v w
  | absent (cs : List Container) : SameShape (.option :: cs) .absent .absent
  | present {cs : List Container} {v w : Value} (held : SameShape cs v w) :
      SameShape (.option :: cs) (.present v) (.present w)
  | list {cs : List Container} {vs ws : List Value} (length : vs.length = ws.length)
      (each : ∀ {v w : Value}, (v, w) ∈ vs.zip ws → SameShape cs v w) :
      SameShape (.list :: cs) (.list vs) (.list ws)
  | boxed {cs : List Container} {v w : Value} (held : SameShape cs v w) :
      SameShape (.box :: cs) (.boxed v) (.boxed w)

/-- The leaves of a value, from the first to the last. -/
def leaves : List Container → Value → List Value
  | [], v => [v]
  | .option :: cs, .present v => leaves cs v
  | .list :: cs, .list vs => vs.flatMap (leaves cs)
  | .box :: cs, .boxed v => leaves cs v
  | _ :: _, _ => []

variable {f : Value → Value} {cs : List Container} {v w : Value}

/-- A conversion keeps the shape. -/
theorem sameShape_parse (f : Value → Value) (h : Fits cs v) : SameShape cs v (parse f cs v) := by
  induction h with
  | leaf v => exact .leaf v (f v)
  | absent cs => exact .absent cs
  | present _ ih => exact .present ih
  | @list cs vs _ ih =>
      refine .list (List.length_map _).symm ?_
      intro v w hvw
      rw [← List.map_prod_left_eq_zip] at hvw
      obtain ⟨x, hx, hpair⟩ := List.mem_map.mp hvw
      cases hpair
      exact ih v hx
  | boxed _ ih => exact .boxed ih

/-- A conversion converts the leaves, in order. -/
theorem leaves_parse (f : Value → Value) (h : Fits cs v) :
    leaves cs (parse f cs v) = (leaves cs v).map f := by
  induction h with
  | leaf v => rfl
  | absent cs => rfl
  | present _ ih => exact ih
  | @list cs vs _ ih =>
      show (vs.map (parse f cs)).flatMap (leaves cs) = (vs.flatMap (leaves cs)).map f
      rw [List.flatMap_map, List.map_flatMap]
      exact List.flatMap_congr ih
  | boxed _ ih => exact ih

/-- Values of one shape have equally many leaves. -/
theorem SameShape.length_leaves (h : SameShape cs v w) :
    (leaves cs v).length = (leaves cs w).length := by
  induction h with
  | leaf v w => rfl
  | absent cs => rfl
  | present _ ih => exact ih
  | @list cs vs ws hlength _ ih =>
      show (vs.flatMap (leaves cs)).length = (ws.flatMap (leaves cs)).length
      rw [List.length_flatMap, List.length_flatMap]
      congr 1
      exact map_congr_of_forall₂ (fun _ _ h => h) (List.forall₂_iff_zip.mpr ⟨hlength, ih⟩)
  | boxed _ ih => exact ih

/-- Shape and leaves determine what a value is converted to. -/
theorem SameShape.eq_parse (h : SameShape cs v w)
    (hleaves : leaves cs w = (leaves cs v).map f) : parse f cs v = w := by
  induction h with
  | leaf v w => exact (List.singleton_inj.mp hleaves).symm
  | absent cs => rfl
  | present _ ih => exact congrArg Value.present (ih hleaves)
  | @list cs vs ws hlength heach ih =>
      have hpairs := List.forall₂_iff_zip.mpr ⟨hlength, fun hvw => And.intro (heach hvw) (ih hvw)⟩
      refine congrArg Value.list ?_
      replace hleaves : ws.flatMap (leaves cs) = (vs.flatMap (leaves cs)).map f := hleaves
      clear hlength heach ih
      -- the leaves of the first elements are equally many, so the equation splits there
      induction hpairs with
      | nil => rfl
      | @cons v w vs ws hvw _ ih =>
          rw [List.flatMap_cons, List.flatMap_cons, List.map_append] at hleaves
          have hlength : (leaves cs w).length = ((leaves cs v).map f).length := by
            rw [List.length_map, hvw.1.length_leaves]
          obtain ⟨hfirst, hrest⟩ := List.append_inj hleaves hlength
          rw [List.map_cons, hvw.2 hfirst, ih hrest]
  | boxed _ ih => exact congrArg Value.boxed (ih hleaves)

/-- **Leaves are converted in place.** -/
theorem parse_eq_iff (f : Value → Value) (h : Fits cs v) :
    parse f cs v = w ↔ SameShape cs v w ∧ leaves cs w = (leaves cs v).map f := by
  constructor
  · rintro rfl
    exact ⟨sameShape_parse f h, leaves_parse f h⟩
  · rintro ⟨hshape, hleaves⟩
    exact hshape.eq_parse hleaves

end Container

/-! ## Types that are nestings -/

namespace Ty

/-- The type is the nesting of the containers, the outermost first, around the leaf. -/
inductive Nests : Ty → List Container → Ty → Prop where
  | leaf {ty : Ty} (plain : ty.container? = none) : Nests ty [] ty
  | layer {ty inner leaf : Ty} {c : Container} {cs : List Container}
      (outer : ty.container? = some (c, inner)) (rest : Nests inner cs leaf) :
      Nests ty (c :: cs) leaf

variable {ty inner leaf : Ty} {c : Container} {cs : List Container}

/-- A path has at least the tokens of each of its segments. -/
theorem sizes_listTokens_of_mem {segments : List (Segment × Tokens)} {last : Segment × Tokens}
    (h : last ∈ segments) :
    Token.sizes last.1.tokens ≤ Token.sizes (Segment.listTokens segments) := by
  induction segments with
  | nil => cases h
  | cons first rest ih =>
      rw [Segment.listTokens, Token.sizes_append, Token.sizes_append]
      rcases List.mem_cons.mp h with rfl | hlater
      · omega
      · have hrest := ih hlater
        omega

/-- A container is a path that ends in its name and, in angle brackets, the type of what it
    holds. -/
theorem exists_of_container? (h : ty.container? = some (c, inner)) :
    ∃ p name less separator greater, ty = .path p
      ∧ p.last? = some (.mk name (.angle less [(.type inner, separator)] greater))
      ∧ Container.all.find? (fun c => name.is c.name) = some c := by
  cases ty with
  | path p =>
      rw [container?] at h
      split at h
      · next name less _ separator greater hlast =>
          obtain ⟨found, hfind, heq⟩ := Option.map_eq_some_iff.mp h
          cases heq
          exact ⟨p, name, less, separator, greater, rfl, hlast, hfind⟩
      · cases h
  | _ => cases h

/-- What is held has fewer tokens than the container. -/
theorem sizes_lt_of_container? (h : ty.container? = some (c, inner)) :
    Token.sizes inner.tokens < Token.sizes ty.tokens := by
  obtain ⟨⟨leading, segments⟩, name, less, separator, greater, rfl, hlast, -⟩ :=
    exists_of_container? h
  obtain ⟨last, hmem, hsegment⟩ := Option.map_eq_some_iff.mp hlast
  have hle : Token.sizes last.1.tokens ≤ Token.sizes (Segment.listTokens segments) :=
    sizes_listTokens_of_mem (List.mem_of_getLast? hmem)
  rw [hsegment] at hle
  -- the segment has the name of the container besides what it holds
  have hinner : Token.sizes inner.tokens < Token.sizes (Segment.tokens
      (.mk name (.angle less [(.type inner, separator)] greater))) := by
    rw [Segment.tokens, SegmentArgs.tokens, GenericArg.otherTokens, GenericArg.tokens]
    · simp only [Token.sizes, Token.size, Token.sizes_append]
      omega
    · rintro tokens ⟨⟩
  rw [Ty.tokens, Path.tokens, Token.sizes_append]
  omega

/-- Every type is a nesting around some leaf. -/
theorem exists_nests (ty : Ty) : ∃ cs leaf, Nests ty cs leaf := by
  induction hsize : Token.sizes ty.tokens using Nat.strong_induction_on generalizing ty with
  | _ n ih =>
      cases hcontainer : ty.container? with
      | none => exact ⟨[], ty, .leaf hcontainer⟩
      | some found =>
          obtain ⟨c, inner⟩ := found
          have hlt := sizes_lt_of_container? hcontainer
          rw [hsize] at hlt
          obtain ⟨cs, leaf, hrest⟩ := ih _ hlt inner rfl
          exact ⟨c :: cs, leaf, .layer hcontainer hrest⟩

/-- A nesting has at least a token for each layer. -/
theorem Nests.length_le (h : Nests ty cs leaf) : cs.length ≤ Token.sizes ty.tokens := by
  induction h with
  | leaf _ => exact Nat.zero_le _
  | layer houter _ ih =>
      have hlt := sizes_lt_of_container? houter
      rw [List.length_cons]
      omega

/-- A depth of as many layers suffices. -/
theorem Nests.layersWithin_eq (h : Nests ty cs leaf) {depth : Nat} (hdepth : cs.length ≤ depth) :
    ty.layersWithin depth = (cs, leaf) := by
  induction h generalizing depth with
  | leaf hplain =>
      -- at depth zero the type itself is given back, which is right for a leaf only
      cases depth with
      | zero => rfl
      | succ depth => rw [layersWithin, hplain]
  | layer houter _ ih =>
      rw [List.length_cons] at hdepth
      obtain ⟨depth, rfl⟩ : ∃ n, depth = n + 1 := ⟨depth - 1, by omega⟩
      rw [layersWithin, houter]
      show (_ :: (layersWithin depth _).1, (layersWithin depth _).2) = _
      rw [ih (Nat.le_of_succ_le_succ hdepth)]

/-- The bound on the depth is never reached. -/
theorem Nests.layers_eq (h : Nests ty cs leaf) : ty.layers = (cs, leaf) :=
  h.layersWithin_eq h.length_le

/-- An optional type is the container of optional values. -/
theorem container?_of_optionInner? (h : ty.optionInner? = some inner) :
    ty.container? = some (.option, inner) := by
  cases ty with
  | path p =>
      rw [optionInner?] at h
      split at h
      · next name less held separator greater hlast =>
          split at h
          · next hoption =>
              cases h
              have hfirst : name.is Container.option.name = true := hoption
              rw [container?, hlast]
              show (Container.all.find? fun c => name.is c.name).map _ = _
              rw [Container.all, List.find?_cons, hfirst]
              rfl
          · cases h
      · cases h
  | _ => cases h

end Ty

namespace Surroundings

variable {ty inner leaf : Ty} {c : Container} {cs : List Container}

/-- The conversion to a nesting goes through its containers. -/
theorem parse_of_nests (s : Surroundings) (h : Ty.Nests ty cs leaf) :
    s.parse ty = Container.parse (s.convert leaf) cs := by
  funext v
  rw [parse, h.layers_eq]

/-- The conversion to a container is that of what it holds, carried through. -/
theorem parse_of_container? (s : Surroundings) (h : ty.container? = some (c, inner)) :
    s.parse ty = c.map (s.parse inner) := by
  -- both sides are read off one nesting, with and without its outermost layer
  obtain ⟨cs, leaf, hinner⟩ := Ty.exists_nests inner
  rw [s.parse_of_nests hinner, s.parse_of_nests (.layer h hinner)]
  rfl

end Surroundings

end DeclMacros
