import DeclMacros.Grammar
import DeclMacros.Proofs.SafeExprs

/-! # Items are read safely

    The readers of items are safe, so by induction on the depth the readers of all
    phrases are (`phrases_isSafe`).  Of an item that is read more is known: the names
    that the macros build on have the form of identifiers, and the arguments of the
    attributes on its fields can be read in their turn (`Item.IsRead`). -/

set_option autoImplicit false

namespace DeclMacros

/-! ## What is known of an item that was read -/

/-- The arguments of the attributes on fields can be read. -/
def Fields.IsRead (fields : Fields) : Prop :=
  ∀ f ∈ fields.list, ∀ a ∈ f.attrs, a.arguments.isReadable = true

/-- The names in an item have the form of identifiers, and the arguments of the
    attributes on its fields can be read. -/
def Item.IsRead : Item → Prop
  | .struct s => s.name.hasForm = true ∧ s.fields.IsRead
  | .enum e => ∀ v ∈ e.variants.values, v.name.hasForm = true
  | .trait t => t.name.hasForm = true
  | _ => True

namespace Phrases

open DeclMacros.Parser

variable {P : Phrases} [hP : P.IsSafe] {L : Source}

instance gives_other (attrs : List Attribute) (body : Tokens) :
    Gives L Item.IsRead (pure (.other attrs body)) := Gives.pure trivial

instance gives_verbatim (tokens : Tokens) : Gives L Item.IsRead (pure (.verbatim tokens)) :=
  Gives.pure trivial

instance gives_function (f : FnDecl) : Gives L Item.IsRead (pure (.function f)) :=
  Gives.pure trivial

instance gives_union (u : UnionDecl) : Gives L Item.IsRead (pure (.union u)) :=
  Gives.pure trivial

instance gives_failKeywords {α : Type} {Q : α → Prop} (keywords : List String)
    (more : List Wanted) : Gives L Q (failKeywords keywords more) := by
  unfold failKeywords; infer_instance

instance safe_untilEnd {α : Type} (p : Parser α) [Safe L p] : Safe L (untilEnd p) := by
  unfold untilEnd; infer_instance

/-! ## Structures, enumerations, unions -/

instance safe_afterTuple : Safe L P.afterTuple := by unfold afterTuple; infer_instance

theorem gives_namedField :
    Gives L (fun f => ∀ a ∈ f.attrs, a.arguments.isReadable = true) P.namedField := by
  unfold namedField
  refine gives_outerAttrs.bind fun attrs hattrs => ?_
  have hfield (vis : Visibility) (i : Option Ident) (colon : Tokens) (ty : Ty) :
      Gives L (fun f : Field => ∀ a ∈ f.attrs, a.arguments.isReadable = true)
        (pure ⟨attrs, vis, i, colon, ty⟩) := Gives.pure hattrs
  infer_instance

theorem gives_tupleField :
    Gives L (fun f => ∀ a ∈ f.attrs, a.arguments.isReadable = true) P.tupleField := by
  unfold tupleField
  refine gives_outerAttrs.bind fun attrs hattrs => .step fun vis => .step fun ty => ?_
  exact Gives.pure hattrs

/-- Fields with names, or without, that were read. -/
theorem gives_namedFields :
    Gives L (fun x => ∀ f ∈ x.1.values, ∀ a ∈ f.attrs, a.arguments.isReadable = true)
      P.namedFields :=
  (gives_delimited fun _ => gives_commaList gives_namedField).mono fun _ h =>
    List.forall_mem_map.mpr h

theorem gives_tupleFields :
    Gives L (fun x => ∀ f ∈ x.1.values, ∀ a ∈ f.attrs, a.arguments.isReadable = true)
      P.tupleFields :=
  (gives_delimited fun _ => gives_commaList gives_tupleField).mono fun _ h =>
    List.forall_mem_map.mpr h

theorem gives_structBody : Gives L (fun x => x.2.1.IsRead) P.structBody := by
  have hunit (clause : Option WhereClause) (semicolon : Tokens) :
      Gives L (fun x : Option WhereClause × Fields × Tokens => x.2.1.IsRead)
        (pure (clause, .unit, semicolon)) := Gives.pure (List.forall_mem_nil _)
  unfold structBody
  refine .step fun _ => .ite (fun _ => .step fun clause => .step fun _ => ?_) fun _ => ?_
  · refine .ite (fun _ => gives_namedFields.bind ?_) fun _ => inferInstance
    rintro ⟨fields, span⟩ hfields
    exact Gives.pure hfields
  · refine .step fun _ => .ite (fun _ => gives_tupleFields.bind ?_) fun _ => .step fun _ => ?_
    · rintro ⟨fields, span⟩ hfields
      refine .step ?_
      rintro ⟨clause, semicolon⟩
      exact Gives.pure hfields
    · refine .ite (fun _ => gives_namedFields.bind ?_) fun _ => inferInstance
      rintro ⟨fields, span⟩ hfields
      exact Gives.pure hfields

theorem gives_structDecl (attrs : List Attribute) :
    Gives L (fun s => s.name.hasForm = true ∧ s.fields.IsRead) (P.structDecl attrs) := by
  unfold structDecl
  refine .step fun vis => .step fun keyword => gives_name.bind fun i hi => .step fun params => ?_
  refine gives_structBody.bind ?_
  rintro ⟨clause, fields, semicolon⟩ hfields
  exact Gives.pure ⟨hi, hfields⟩

theorem gives_variant : Gives L (fun v => v.name.hasForm = true) P.variant := by
  unfold variant
  refine .step fun attrs => .step fun _ => gives_name.bind fun i hi => .step fun _ => ?_
  extract_lets rest
  have hrest (fields : Fields) : Gives L (fun v => v.name.hasForm = true) (rest fields) := by
    unfold rest
    exact .test (.step fun equals => .step fun value => Gives.pure hi) (Gives.pure hi)
  clear_value rest
  infer_instance

theorem gives_enumDecl (attrs : List Attribute) :
    Gives L (fun e => ∀ v ∈ e.variants.values, v.name.hasForm = true) (P.enumDecl attrs) := by
  unfold enumDecl
  refine .step fun vis => .step fun keyword => .step fun i => .step fun params => ?_
  refine .step fun clause => (gives_delimited fun _ => gives_commaList gives_variant).bind ?_
  rintro ⟨variants, span⟩ hvariants
  exact Gives.pure (List.forall_mem_map.mpr hvariants)

instance safe_unionDecl (attrs : List Attribute) : Safe L (P.unionDecl attrs) := by
  unfold unionDecl; infer_instance

/-! ## Associated types and macro calls -/

instance safe_typeAlias (place : ClausePlace) : Safe L (P.typeAlias place) := by
  unfold typeAlias
  refine .step fun keyword => .step fun i => .step fun params => .step fun colon => ?_
  extract_lets stop rest
  have hrest (bounds : List (Bound × Tokens)) : Safe L (rest bounds) := by
    unfold rest
    exact .step fun before => .step fun _ => inferInstance
  clear_value rest
  infer_instance

instance safe_macroItem (labelled : Bool) : Safe L (macroItem labelled) := by
  unfold macroItem
  dsimp only
  refine .step fun path => .step fun bang => .step fun _ => ?_
  refine .ite (fun _ => .step fun i => .step fun label => .step fun arguments => ?_)
    fun _ => .step fun label => .step fun arguments => ?_
  all_goals
    cases arguments with
    | group d content span => cases d <;> infer_instance
    | _ => infer_instance

/-! ## Traits -/

instance safe_traitMethod (attrs : List Attribute) : Safe L (P.traitMethod attrs) := by
  unfold traitMethod; infer_instance

instance safe_traitConst (attrs : List Attribute) : Safe L (P.traitConst attrs) := by
  unfold traitConst; infer_instance

instance safe_traitItemBody (attrs : List Attribute) : Safe L (P.traitItemBody attrs) := by
  unfold traitItemBody
  exact .test inferInstance (.test (.test inferInstance inferInstance) inferInstance)

instance safe_traitItem : Safe L P.traitItem := by unfold traitItem; infer_instance

theorem gives_traitRest (attrs : List Attribute) (vis : Visibility) (unsafety auto : Tokens)
    (keyword : Token) {i : Ident} (hi : i.hasForm = true) (params : Generics) :
    Gives L (fun t => t.name.hasForm = true)
      (P.traitRest attrs vis unsafety auto keyword i params) := by
  have htrait (attrs : List Attribute) (params : Generics) (colon : Tokens)
      (supertraits : List (Bound × Tokens)) (items : List TraitItem) (span : Span) :
      Gives L (fun t : TraitDecl => t.name.hasForm = true)
        (pure ⟨attrs, vis, unsafety, auto, keyword, i, params, colon, supertraits, items, span⟩) :=
    Gives.pure hi
  unfold traitRest
  dsimp only
  infer_instance

instance gives_qualifiedTrait (attrs : List Attribute) :
    Gives L Item.IsRead (P.qualifiedTrait attrs) := by
  unfold qualifiedTrait
  refine .step fun vis => .step fun unsafety => .step fun auto => .step fun keyword => ?_
  refine gives_name.bind fun i hi => .step fun params => ?_
  exact (gives_traitRest attrs vis unsafety auto keyword hi params).bind fun t ht => Gives.pure ht

instance gives_traitOrAlias (attrs : List Attribute) :
    Gives L Item.IsRead (P.traitOrAlias attrs) := by
  unfold traitOrAlias
  refine .step fun vis => .step fun keyword => gives_name.bind fun i hi => ?_
  refine .step fun params => .step fun _ => .ite (fun _ => ?_) fun _ => inferInstance
  exact (gives_traitRest attrs vis [] [] keyword hi params).bind fun t ht => Gives.pure ht

/-! ## Implementations -/

instance safe_implMethod (attrs : List Attribute) : Safe L (P.implMethod attrs) := by
  unfold implMethod; infer_instance

instance safe_implConst (start : Input) (attrs : List Attribute) :
    Safe L (P.implConst start attrs) := by
  unfold implConst; infer_instance

instance safe_implType (start : Input) (attrs : List Attribute) :
    Safe L (P.implType start attrs) := by
  unfold implType; infer_instance

instance safe_implItem : Safe L P.implItem := by
  unfold implItem
  refine Gives.get_bind fun start _ => .step fun attrs => ?_
  -- the place that is looked ahead to is handed on, so it is kept that it is inside
  refine Gives.bind (R := fun x : (Bool × Input) × Bool => x.1.2.Inside L) ?_ ?_
  · refine @gives_lookAhead _ _ _ _ (.step fun vis => .step fun _ => .step fun _ => ?_)
    have hplace (plain hasDefault : Bool) : Gives L
        (fun x : (Bool × Input) × Bool => x.1.2.Inside L)
        (get >>= fun s => pure ((plain, s), hasDefault)) := Gives.get_bind fun _ hs => Gives.pure hs
    dsimp only
    infer_instance
  · rintro ⟨⟨plain, ahead⟩, hasDefault⟩ hahead
    infer_instance

instance safe_implTarget : Safe L P.implTarget := by
  unfold implTarget
  refine Gives.get_bind fun start _ => .step fun _ => .step fun _ => ?_
  extract_lets rest
  have hrest (polarity : Tokens) : Safe L (rest polarity) := by
    unfold rest
    exact .step fun first => .test inferInstance inferInstance
  clear_value rest
  infer_instance

instance gives_implDecl (start : Input) (attrs : List Attribute) :
    Gives L Item.IsRead (P.implDecl start attrs) := by
  unfold implDecl
  refine .step fun vis => .step fun defaultness => .step fun unsafety => .step fun keyword => ?_
  refine .step fun _ => ?_
  extract_lets rest
  have hrest (params : Generics) : Gives L Item.IsRead (rest params) := by
    unfold rest
    refine .step fun isConst => ?_
    extract_lets body
    have hbody (x : Unit) : Gives L Item.IsRead (body x) := by
      unfold body
      infer_instance
    clear_value body
    infer_instance
  clear_value rest
  infer_instance

/-! ## Other items -/

instance safe_rename : Safe L rename := by unfold rename; infer_instance

instance safe_anyUseTree : Safe L P.anyUseTree := by
  unfold anyUseTree
  exact .test (.step fun i => .test inferInstance inferInstance) inferInstance

instance safe_useItem : Safe L P.useItem := by unfold useItem; infer_instance

instance safe_externCrate : Safe L externCrate := by
  unfold externCrate
  refine .step fun vis => .step fun keyword => .step fun crate => .step fun _ => ?_
  extract_lets rest
  have hrest (i : Ident) : Safe L (rest i) := by
    unfold rest
    infer_instance
  clear_value rest
  infer_instance

instance safe_staticHead : Safe L staticHead := by unfold staticHead; infer_instance

instance gives_staticItem (start : Input) (attrs : List Attribute) :
    Gives L Item.IsRead (P.staticItem start attrs) := by
  unfold staticItem
  refine .step fun head => .test inferInstance (.step fun colon => .step fun ty => ?_)
  exact .test inferInstance inferInstance

instance gives_constItem (start : Input) (attrs : List Attribute) :
    Gives L Item.IsRead (P.constItem start attrs) := by
  unfold constItem
  refine .step fun vis => .step fun keyword => .step fun _ => .step fun _ => ?_
  extract_lets rest
  have hrest (i : Ident) : Gives L Item.IsRead (rest i) := by
    unfold rest
    exact .step fun colon => .step fun ty => .test inferInstance inferInstance
  clear_value rest
  infer_instance

/-- The place that a look past a visibility gives is in the source. -/
theorem gives_ahead : Gives L (fun x : Bool × Input => x.2.Inside L)
    (lookAhead (visibility >>= fun vis => get >>= fun s => pure (vis.isInherited, s))) :=
  @gives_lookAhead _ _ _ _ (.step fun _ => Gives.get_bind fun _ hs => Gives.pure hs)

instance safe_foreignItem : Safe L P.foreignItem := by
  unfold foreignItem
  refine Gives.get_bind fun start _ => .step fun attrs => gives_ahead.bind ?_
  rintro ⟨plain, ahead⟩ hahead
  refine .ite (fun _ => inferInstance) fun _ => .ite (fun _ => inferInstance) fun _ => ?_
  infer_instance

instance safe_foreignBlock : Safe L P.foreignBlock := by unfold foreignBlock; infer_instance

instance safe_moduleItem : Safe L P.moduleItem := by
  unfold moduleItem
  refine .step fun vis => .step fun keyword => .step fun i => ?_
  exact .test inferInstance inferInstance

instance safe_macroDecl : Safe L macroDecl := by unfold macroDecl; infer_instance

instance gives_externItem (ahead : Input) [ahead.Inside L] (attrs : List Attribute) :
    Gives L Item.IsRead (P.externItem ahead attrs) := by
  unfold externItem
  refine .ite (fun _ => inferInstance) fun _ => .ite (fun _ => inferInstance) fun _ => ?_
  refine Gives.get_bind fun start _ => .step fun _ => .step fun _ => ?_
  exact .test (.step fun _ => .test inferInstance inferInstance) inferInstance

instance gives_unsafeItem (start ahead : Input) [ahead.Inside L] (attrs : List Attribute) :
    Gives L Item.IsRead (P.unsafeItem start ahead attrs) := by
  unfold unsafeItem
  extract_lets next
  refine .ite (fun _ => inferInstance) fun _ => .ite (fun _ => inferInstance) fun _ => ?_
  exact .ite (fun _ => inferInstance) fun _ => inferInstance

instance gives_fnItem (start : Input) (attrs : List Attribute) :
    Gives L Item.IsRead (P.fnItem start attrs) := by
  unfold fnItem; infer_instance

instance gives_aliasItem (start : Input) (attrs : List Attribute) :
    Gives L Item.IsRead (P.aliasItem start attrs) := by
  unfold aliasItem; infer_instance

theorem gives_anyItem : Gives L Item.IsRead P.anyItem := by
  unfold anyItem
  refine Gives.get_bind fun start _ => .step fun attrs => gives_ahead.bind ?_
  rintro ⟨plain, ahead⟩ hahead
  have hstruct : Gives L Item.IsRead (P.structDecl attrs >>= fun s => pure (.struct s)) :=
    (gives_structDecl attrs).bind fun _ hs => Gives.pure hs
  have henum : Gives L Item.IsRead (P.enumDecl attrs >>= fun e => pure (.enum e)) :=
    (gives_enumDecl attrs).bind fun _ he => Gives.pure he
  infer_instance

end Phrases

/-! ## All phrases -/

open DeclMacros.Parser

/-- The readers of phrases are safe at every depth. -/
theorem phrases_isSafe (depth : Nat) : (phrases depth).IsSafe := by
  induction depth with
  | zero => constructor <;> intros <;> exact gives_fail _
  | succ depth ih =>
      exact
        { ty := fun _ _ _ => Phrases.safe_anyType _ _
          bound := fun _ => Phrases.safe_anyBound
          expr := fun _ _ => Phrases.safe_anyExpr _
          operand := fun _ _ => Phrases.safe_anyOperand _
          operators := fun _ _ _ _ => Phrases.safe_anyOperators _ _ _
          conditional := fun _ => Phrases.safe_anyConditional
          selection := fun _ => Phrases.safe_anySelection
          pattern := fun _ => Phrases.safe_anyPattern
          statements := fun _ => Phrases.safe_anyStatements
          item := fun _ => Phrases.gives_anyItem.safe
          field := fun _ => Phrases.gives_namedField.safe
          useTree := fun _ => Phrases.safe_anyUseTree }

instance phrasesFor_isSafe (ts : Tokens) : (phrasesFor ts).IsSafe := phrases_isSafe _

namespace Tokens

/-- **An item that can be read** is read without a crash. -/
theorem readItem_ne_crash {ts : Tokens} (h : ts.isReadable = true) (c : Crash) :
    ts.readItem ≠ .error (.crash c) :=
  run_ne_crash h inferInstance c

/-- The names in an item that was read have the form of identifiers, and the attributes on
    its fields can be read. -/
theorem isRead_of_readItem {ts : Tokens} {item : Item} (h : ts.isReadable = true)
    (hitem : ts.readItem = .ok item) : item.IsRead := by
  have := phrases_isSafe (4 * Token.sizes ts + 7)
  exact property_of_run h Phrases.gives_anyItem hitem

end Tokens

end DeclMacros
