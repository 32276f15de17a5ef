import DeclMacros.Grammar.Type
import DeclMacros.Proofs.Safety

/-! # Paths and types are read safely

    A reader of phrases takes the readers of nested phrases as a parameter; they are
    assumed to be safe (`Phrases.IsSafe`), and the readers of paths, bounds, types and
    generic parameters are shown to be safe then.  Most of them are put together from
    safe parts, and instance search finds that out along their form.  A chain of tests
    is taken apart test by test (`Gives.test`), and what is read after a test whichever
    way it went is shown to be safe once, under a name of its own.

    The exception is the function pointer type.  Its parameters are read by a loop that
    crashes when it records one after another without a separator between them.  The
    invariant of the loop is that after a `mut self` one comma was passed (`Along`); the
    one that would be the second is not there in a source that keeps its separators
    (`not_passed_two`). -/

set_option autoImplicit false

namespace DeclMacros

namespace Phrases

open DeclMacros.Parser
open Token (openedAll)

/-- The readers of nested phrases are safe on every source. -/
class IsSafe (P : Phrases) : Prop where
  ty : ∀ (L : Source) (allowPlus allowArguments : Bool), Safe L (P.ty allowPlus allowArguments)
  bound : ∀ L : Source, Safe L P.bound
  expr : ∀ (L : Source) (allowStruct : Bool), Safe L (P.expr allowStruct)
  operand : ∀ (L : Source) (allowStruct : Bool), Safe L (P.operand allowStruct)
  operators : ∀ (L : Source) (allowStruct : Bool) (left : Expr) (base : Precedence),
    Safe L (P.operators allowStruct left base)
  conditional : ∀ L : Source, Safe L P.conditional
  selection : ∀ L : Source, Safe L P.selection
  pattern : ∀ L : Source, Safe L P.pattern
  statements : ∀ L : Source, Safe L P.statements
  item : ∀ L : Source, Safe L P.item
  field : ∀ L : Source, Safe L P.field
  useTree : ∀ L : Source, Safe L P.useTree

attribute [instance] IsSafe.ty IsSafe.bound IsSafe.expr IsSafe.operand IsSafe.operators
  IsSafe.conditional IsSafe.selection IsSafe.pattern IsSafe.statements IsSafe.item IsSafe.field
  IsSafe.useTree

variable {P : Phrases} [hP : P.IsSafe] {L : Source}

instance safe_type : Safe L P.type := IsSafe.ty L true true

instance safe_typeWithoutPlus : Safe L P.typeWithoutPlus := IsSafe.ty L false true

/-! ## Paths -/

instance safe_output (allowPlus : Bool) : Safe L (P.output allowPlus) := by
  unfold output; infer_instance

instance safe_block : Safe L P.block := by unfold block; infer_instance

instance safe_attributedBlock : Safe L P.attributedBlock := by
  unfold attributedBlock; infer_instance

instance safe_boundsUntil (stop : List Token → Bool) : Safe L (P.boundsUntil stop) := by
  unfold boundsUntil; infer_instance

instance safe_constArgument : Safe L P.constArgument := by unfold constArgument; infer_instance

instance safe_boundType : Safe L P.boundType := by unfold boundType; infer_instance

instance safe_typeArgument : Safe L P.typeArgument := by
  unfold typeArgument
  exact Gives.get_bind fun start _ => .step fun ty => .test inferInstance inferInstance

instance safe_genericArg : Safe L P.genericArg := by
  unfold genericArg
  refine .step fun _ => .test inferInstance ?_
  refine .step fun _ => .test inferInstance ?_
  refine .step fun _ => .step fun _ => .test inferInstance ?_
  infer_instance

instance safe_angleArgs : Safe L P.angleArgs := by unfold angleArgs; infer_instance

instance safe_parenArgs : Safe L P.parenArgs := by unfold parenArgs; infer_instance

instance safe_segment (inExpr : Bool) : Safe L (P.segment inExpr) := by
  unfold segment
  refine .step fun _ => .step fun _ => .test inferInstance (.step fun _ => ?_)
  extract_lets arguments
  have harguments (i : Ident) : Safe L (arguments i) := by
    unfold arguments
    infer_instance
  clear_value arguments
  infer_instance

instance safe_pathRest (inExpr : Bool) (first : Path) : Safe L (P.pathRest inExpr first) := by
  unfold pathRest
  generalize first.segments.reverse = segments
  rcases segments with _ | ⟨⟨last, separator⟩, before⟩ <;> infer_instance

instance safe_path (inExpr : Bool) : Safe L (P.path inExpr) := by unfold path; infer_instance

instance safe_qualifiedPath (inExpr : Bool) : Safe L (P.qualifiedPath inExpr) := by
  unfold qualifiedPath
  refine .test (.step fun less => .step fun self => .step fun _ => ?_) inferInstance
  extract_lets rest
  have hrest (trait : Tokens × Path) : Safe L (rest trait) := by
    unfold rest
    infer_instance
  clear_value rest
  infer_instance

instance safe_peekParenArgs (arguments : SegmentArgs) : Safe L (peekParenArgs arguments) := by
  unfold peekParenArgs; infer_instance

instance safe_typeRest (ty : Ty) : Safe L (P.typeRest ty) := by
  unfold typeRest
  split <;> infer_instance

instance safe_typePath : Safe L P.typePath := by
  unfold typePath
  exact .step fun first => inferInstance

instance safe_traitPath : Safe L P.traitPath := by unfold traitPath; infer_instance

/-! ## Bounds -/

instance safe_lifetimeParam : Safe L lifetimeParam := by unfold lifetimeParam; infer_instance

instance safe_boundLifetimes : Safe L boundLifetimes := by unfold boundLifetimes; infer_instance

instance safe_optBoundLifetimes : Safe L optBoundLifetimes := by
  unfold optBoundLifetimes; infer_instance

instance safe_traitBound (parens : Option Span) : Safe L (P.traitBound parens) := by
  unfold traitBound; infer_instance

instance safe_anyBound : Safe L P.anyBound := by
  unfold anyBound
  refine .step fun _ => ?_
  split
  · infer_instance
  · refine .step fun _ => ?_
    split
    · refine .step ?_
      rintro ⟨found, span⟩
      cases found <;> infer_instance
    · infer_instance

instance safe_boundList (allowPlus : Bool) : Safe L (P.boundList allowPlus) := by
  unfold boundList; infer_instance

instance safe_traitBounds (allowPlus : Bool) (start : Span) (cause : Cause) :
    Safe L (P.traitBounds allowPlus start cause) := by
  unfold traitBounds; infer_instance

instance safe_bareObject : Safe L P.bareObject := by unfold bareObject; infer_instance

/-! ## Types -/

instance safe_moreBounds (first : Bound) : Safe L (P.moreBounds first) := by
  unfold moreBounds; infer_instance

instance safe_parenthesised : Safe L P.parenthesised := by
  unfold parenthesised
  exact .test inferInstance (.test inferInstance (.test inferInstance inferInstance))

instance safe_afterParens (allowPlus : Bool) (span : Span) (content : Parenthesised) :
    Safe L (P.afterParens allowPlus span content) := by
  unfold afterParens
  split
  · infer_instance
  · infer_instance
  · infer_instance
  · infer_instance
  · next ty =>
      cases asBound span ty <;> infer_instance

instance safe_parenType (allowPlus : Bool) : Safe L (P.parenType allowPlus) := by
  unfold parenType; infer_instance

instance safe_abi : Safe L abi := by unfold abi; infer_instance

/-! ### Function pointer types

    A parameter list crashes only when a second comma is passed after a `mut self`, and
    then it is one that loses a separator. -/

/-- There was a `mut self` in the source, and this many commas since. -/
def Passed (L : Source) (commas : Nat) (i : Input) : Prop :=
  ∃ (a b : Ident) (between : List Token), a.is "mut" = true ∧ b.is "self" = true ∧
    .ident a :: .ident b :: (between ++ openedAll i.tokens) <:+ L.tokens ∧
    commas ≤ between.countP Token.isComma

theorem Passed.shrink {n : Nat} {i j : Input} (h : Passed L n i)
    (hj : openedAll j.tokens <:+ openedAll i.tokens) : Passed L n j := by
  obtain ⟨a, b, between, ha, hb, hsuffix, hcommas⟩ := h
  obtain ⟨front, hfront⟩ := hj
  refine ⟨a, b, between ++ front, ha, hb, ?_, ?_⟩
  · rwa [List.append_assoc, hfront]
  · rw [List.countP_append]
    exact hcommas.trans (Nat.le_add_right _ _)

theorem Passed.comma {n : Nat} {i j : Input} (h : Passed L n i) {s : Spacing} {span : Span}
    (hj : openedAll i.tokens = .punct ',' s span :: openedAll j.tokens) : Passed L (n + 1) j := by
  obtain ⟨a, b, between, ha, hb, hsuffix, hcommas⟩ := h
  refine ⟨a, b, between ++ [.punct ',' s span], ha, hb, ?_, ?_⟩
  · rwa [List.append_assoc, List.singleton_append, ← hj]
  · rw [List.countP_append]
    exact Nat.add_le_add hcommas (Nat.le_refl 1)

/-- Where separators are kept, no two commas follow a `mut self`. -/
theorem not_passed_two {i : Input} (hL : Token.losesSeparator L.tokens = false) :
    ¬Passed L 2 i := by
  rintro ⟨a, b, between, ha, hb, hsuffix, hcommas⟩
  have hkeeps := List.any_eq_false.mp hL _ ((List.mem_tails _ _).mpr hsuffix)
  refine hkeeps ?_
  rw [Token.startsLoss, ha, hb, List.countP_append]
  exact decide_eq_true (hcommas.trans (Nat.le_add_right _ _))

/-- The words `mut self` are passed only where they stand. -/
theorem ends_mutSelf? {i : Input} (hi : i.Inside L) :
    Ends (mutSelf? i) fun found j => j.Inside L ∧ (found = true → Passed L 0 j) := by
  unfold mutSelf?
  refine ((safe_peekKw "mut").ends i hi).bind fun here j hj => ?_
  refine ((safe_peek2 _).ends j hj.1).bind fun next k hk => ?_
  split
  · refine (ends_kw "mut" k).bind ?_
    rintro _ l ⟨a, ha, hfirst⟩
    refine (ends_kw "self" l).bind ?_
    rintro _ m ⟨b, hb, hsecond⟩
    have hsuffix : .ident a :: .ident b :: openedAll m.tokens <:+ L.tokens := by
      rw [← hsecond, ← hfirst]
      exact hk.1.suffix
    refine ⟨⟨.trans ?_ hsuffix⟩, fun _ => ⟨a, b, [], ha, hb, hsuffix, Nat.le_refl 0⟩⟩
    exact (List.suffix_cons _ _).trans (List.suffix_cons _ _)
  · exact ⟨hk.1, by rintro ⟨⟩⟩

instance safe_mutSelf? : Safe L mutSelf? :=
  ⟨fun _ hi => (ends_mutSelf? hi).mono fun _ _ h => ⟨h.1, trivial⟩⟩

/-- A parameter type is missing only after a `mut self`. -/
theorem ends_pointerInputType {i : Input} (hi : i.Inside L) :
    Ends (P.pointerInputType i) fun ty j => j.Inside L ∧ (ty = none → Passed L 0 j) := by
  unfold pointerInputType
  refine ((safe_peekOp "...").ends i hi).bind fun dots j hj => ?_
  split
  · refine ((safe_op "...").ends j hj.1).bind fun _ k hk => ?_
    exact ⟨hk.1, by rintro ⟨⟩⟩
  · refine (ends_mutSelf? hj.1).bind fun found k hk => ?_
    split
    · next hfound => exact ⟨hk.1, fun _ => hk.2 hfound⟩
    · refine (safe_type.ends k hk.1).bind fun ty l hl => ?_
      exact ⟨hl.1, by rintro ⟨⟩⟩

instance safe_pointerInputType : Safe L P.pointerInputType :=
  ⟨fun _ hi => (ends_pointerInputType hi).mono fun _ _ h => ⟨h.1, trivial⟩⟩

/-- A parameter is not recorded only after a `mut self`. -/
theorem ends_pointerInput (attrs : Tokens) {i : Input} (hi : i.Inside L) :
    Ends (P.pointerInput attrs i) fun input j => j.Inside L ∧ (input = none → Passed L 0 j) := by
  unfold pointerInput
  refine (safe_peekName.ends i hi).bind fun _ j hj => ?_
  refine ((safe_peekKw "_").ends j hj.1).bind fun _ k hk => ?_
  refine ((safe_peekKw "self").ends k hk.1).bind fun _ l hl => ?_
  refine ((safe_peek2 _).ends l hl.1).bind fun _ m hm => ?_
  refine ((safe_peek2 _).ends m hm.1).bind fun _ n hn => ?_
  split
  · refine (safe_anyIdent.ends n hn.1).bind fun _ o ho => ?_
    refine ((safe_op ":").ends o ho.1).bind fun _ p hp => ?_
    refine (ends_pointerInputType hp.1).bind fun ty q hq => ?_
    refine ⟨hq.1, fun hnone => hq.2 ?_⟩
    exact Option.map_eq_none_iff.mp hnone
  · refine (ends_pointerInputType hn.1).bind fun ty o ho => ?_
    cases ty with
    | some ty => exact ⟨ho.1, by rintro ⟨⟩⟩
    | none =>
        dsimp only
        refine (Gives.shrinks (Q := fun _ => True) (fun L' => inferInstance) ho.1).mono ?_
        intro input p hp
        exact ⟨⟨hp.1.trans ho.1.suffix⟩, fun _ => (ho.2 rfl).shrink hp.1⟩

instance safe_pointerInput (attrs : Tokens) : Safe L (P.pointerInput attrs) :=
  ⟨fun _ hi => (ends_pointerInput attrs hi).mono fun _ _ h => ⟨h.1, trivial⟩⟩

theorem ends_comma (i : Input) :
    Ends (op "," i) fun _ j =>
      ∃ s span, openedAll i.tokens = .punct ',' s span :: openedAll j.tokens := by
  unfold op
  cases h : Front.operator? ",".toList i.tokens with
  | none => trivial
  | some found =>
      obtain ⟨chars, rest⟩ := found
      exact Front.openedAll_operator?_singleton h

/-- A place in the source; if there was a `mut self`, a comma was passed since. -/
structure Along (L : Source) (seen : Bool) (i : Input) : Prop where
  inside : i.Inside L
  passed : seen = true → Passed L 1 i

/-- A safe reader goes along. -/
theorem Along.ends {α : Type} {p : Parser α} [hp : ∀ L' : Source, Safe L' p] {seen : Bool}
    {i : Input} (h : Along L seen i) : Ends (p i) fun _ j => Along L seen j :=
  (Gives.shrinks hp h.inside).mono fun _ _ hj =>
    ⟨⟨hj.1.trans h.inside.suffix⟩, fun hseen => (h.passed hseen).shrink hj.1⟩

/-- Where no separator is lost, the parameters of a function pointer type are read
    safely: after a `mut self` at most one comma is passed. -/
theorem ends_pointerInputs_go (hL : Token.losesSeparator L.tokens = false) (fuel : Nat) :
    ∀ (seen : Bool) (i : Input), Along L seen i →
      Ends (pointerInputs.go P fuel seen false i) fun _ j => j.Inside L := by
  induction fuel with
  | zero => exact fun _ _ _ => trivial
  | succ fuel ih =>
      intro seen i hi
      rw [pointerInputs.go]
      simp only [Bool.not_false, Bool.true_and, Bool.false_and, Bool.false_eq_true, if_false,
        Bool.false_or]
      refine hi.ends.bind fun ended j hj => ?_
      split
      · exact hj.inside
      refine hj.ends.bind fun attrs k hk => hk.ends.bind fun dots l hl => ?_
      split
      · exact hl.ends.bind fun _ m hm => hm.inside
      refine (hl.ends.and (ends_pointerInput _ hl.inside)).bind fun input m hm => ?_
      obtain ⟨halong, -, hmissing⟩ := hm
      refine (ends_atEnd m).bind ?_
      rintro ended n rfl
      split
      · exact halong.inside
      refine (ends_comma n).bind ?_
      rintro comma o ⟨s, span, hcomma⟩
      have ho : o.Inside L := ⟨.trans (hcomma ▸ List.suffix_cons _ _) halong.inside.suffix⟩
      cases input with
      | none =>
          rw [Option.isNone_none, Option.isSome_none, Bool.or_true, Bool.and_false]
          exact (ih true o ⟨ho, fun _ => (hmissing rfl).comma hcomma⟩).bind fun _ _ hp => hp
      | some input =>
          rw [Option.isNone_some, Option.isSome_some, Bool.or_false, Bool.and_true]
          cases seen with
          | true => exact absurd ((halong.passed rfl).comma hcomma) (not_passed_two hL)
          | false => exact (ih false o ⟨ho, by rintro ⟨⟩⟩).bind fun _ _ hp => hp

instance safe_pointerType (start : Input) (lifetimes : Tokens) :
    Safe L (P.pointerType start lifetimes) := by
  unfold pointerType
  refine .step fun unsafety => .step fun convention => ⟨fun i hi => ?_⟩
  refine (ends_kw "fn" i).bind ?_
  rintro keyword j ⟨word, hword, hfn⟩
  have hj : j.Inside L := ⟨.trans (hfn ▸ List.suffix_cons _ _) hi.suffix⟩
  have hinputs : Ends (entered .parenthesis P.pointerInputs j) fun _ k => k.Inside L := by
    refine (ends_entered (Q := fun _ => True) hj ?_).mono fun _ _ h => h.1
    intro content span rest hfound hcontent
    have hgroup := Front.openedAll_group? hfound
    -- the pointer type stands in the source, which keeps its separators
    have hkeeps : Token.losesSeparator (openedAll content) = false := by
      have hmem : openedAll i.tokens ∈ L.tokens.tails := (List.mem_tails _ _).mpr hi.suffix
      have hbroken := List.all_eq_true.mp L.separators _ hmem
      rw [hfn, hgroup, Token.startsBrokenPointer, hword] at hbroken
      simpa using hbroken
    exact ⟨fun i hi => (ends_pointerInputs_go hkeeps _ false i ⟨hi, by rintro ⟨⟩⟩).mono
      fun _ _ h => ⟨h, trivial⟩⟩
  refine hinputs.bind ?_
  rintro ⟨⟨⟨inputs, variadic⟩, span⟩, left⟩ k hk
  exact Gives.ends k hk

instance safe_namedType (allowPlus : Bool) (start : Input) (lifetimes : Tokens) :
    Safe L (P.namedType allowPlus start lifetimes) := by
  unfold namedType
  refine .step fun _ => ?_
  split
  · infer_instance
  · refine .step fun ty => ?_
    split
    · exact .step fun _ => .test inferInstance (.step fun _ => .ite (fun _ => inferInstance)
        fun _ => inferInstance)
    · infer_instance

instance safe_bracketType : Safe L P.bracketType := by
  unfold bracketType
  refine .step ?_
  rintro ⟨⟨element, length⟩, span⟩
  rcases length with _ | ⟨semicolon, length⟩ <;> infer_instance

instance safe_rawPointerType : Safe L P.rawPointerType := by unfold rawPointerType; infer_instance

instance safe_referenceType : Safe L P.referenceType := by unfold referenceType; infer_instance

instance safe_substitutedType (allowArguments : Bool) :
    Safe L (P.substitutedType allowArguments) := by
  unfold substitutedType
  refine .step ?_
  rintro ⟨inner, span⟩
  refine .step fun _ => .step fun _ => ?_
  refine .ite (fun _ => ?_) fun _ => ?_
  · cases inner <;> infer_instance
  · refine .step fun _ => .step fun _ => .step fun _ => .ite (fun _ => ?_) fun _ => inferInstance
    generalize inner.lastArguments = arguments
    cases inner <;> cases arguments <;> infer_instance

instance safe_afterLifetimes : Safe L afterLifetimes := by unfold afterLifetimes; infer_instance

instance safe_anyType (allowPlus allowArguments : Bool) :
    Safe L (P.anyType allowPlus allowArguments) := by
  unfold anyType
  refine .test inferInstance (Gives.get_bind fun start _ => .step fun lifetimes => ?_)
  extract_lets kinds
  have hkinds (x : Unit) : Safe L (kinds x) := by
    unfold kinds
    refine .test inferInstance (.step fun _ => .step fun _ => .test inferInstance ?_)
    refine .test inferInstance (.test inferInstance (.test inferInstance ?_))
    refine .test inferInstance (.test inferInstance (.test inferInstance ?_))
    infer_instance
  clear_value kinds
  infer_instance

/-! ## Generic parameters -/

instance safe_paramBound : Safe L P.paramBound := by unfold paramBound; infer_instance

instance safe_typeParam (attrs : List Attribute) (i : Ident) : Safe L (P.typeParam attrs i) := by
  unfold typeParam; infer_instance

instance safe_constParam (attrs : List Attribute) : Safe L (P.constParam attrs) := by
  unfold constParam; infer_instance

instance safe_genericParam : Safe L P.genericParam := by
  unfold genericParam
  refine .step fun attrs => .step fun _ => ?_
  split
  · refine .step fun param => ?_
    cases param <;> infer_instance
  · infer_instance

instance safe_generics : Safe L P.generics := by unfold generics; infer_instance

instance safe_predicate : Safe L P.predicate := by unfold predicate; infer_instance

instance safe_whereClause : Safe L P.whereClause := by unfold whereClause; infer_instance

end Phrases

end DeclMacros
