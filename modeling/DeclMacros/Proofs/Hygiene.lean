import DeclMacros.Proofs.Building
import DeclMacros.Proofs.Crashes
import DeclMacros.Proofs.Forwarding

/-! # Generated names beside those of the author

    Generated code has names of its own among those that the author wrote: made-up
    names for arguments without a plain one, the type parameter of a wrapper's `new`,
    and the members that every builder has.  None of them is chosen after a look at
    what the author wrote, so each can meet a name of the author.  This file says
    exactly when it does.

    The route for arguments: their names are the plain ones together with the made-up
    ones, in another order (`perm_argumentNames`).  Names of one kind never meet, so
    two parameters share a name exactly if a plain one is written like a made-up one
    (`Signature.nodup_names_iff`).

    The route for types: a type keeps its meaning under a type parameter exactly if it
    does not name it (`Token.instantiateAll_eq_self_iff`; that it must not is seen by
    putting nothing in its place, which makes the type shorter).  What the generator
    writes around the author's types never names `T`, so only these count. -/

set_option autoImplicit false

namespace DeclMacros

/-! ## Names of arguments -/

/-- The name of a pattern that is nothing but a name. -/
def Pattern.plainName? (p : Pattern) : Option Ident :=
  match p.form with
  | .binding name false false => some name
  | _ => none

/-- The names that a pattern binds: a plain name itself, any other pattern what is
    found inside. -/
def Pattern.boundNames (p : Pattern) : List Ident :=
  match p.plainName? with
  | some name => [name]
  | none => p.binds

/-- The pattern of an input; a receiver has none. -/
def FnArg.pattern? : FnArg → Option Pattern
  | .receiver .. => none
  | .typed _ pattern _ _ => some pattern

/-- The pattern of an input with its type. -/
def FnArg.parameter? : FnArg → Option (Pattern × Ty)
  | .receiver .. => none
  | .typed _ pattern _ ty => some (pattern, ty)

/-- The name that is made up for the argument at a position. -/
def TraitMethod.madeUpName (i : Nat) : Ident := { text := "__arg" ++ toString i }

/-- The name that is made up for a pattern at a position, if it has no plain one. -/
def TraitMethod.madeUpName? (p : Pattern × Nat) : Option Ident :=
  if p.1.plainName?.isNone then some (madeUpName p.2) else none

namespace Signature

/-- The patterns of the inputs after the receiver. -/
def patterns (s : Signature) : List Pattern := s.inputs.values.filterMap FnArg.pattern?

/-- All names that the inputs bind. -/
def boundNames (s : Signature) : List Ident := s.patterns.flatMap Pattern.boundNames

/-- The names of the inputs that have a plain one. -/
def plainNames (s : Signature) : List Ident := s.patterns.filterMap Pattern.plainName?

/-- The names that are made up for the other inputs. -/
def madeUpNames (s : Signature) : List Ident :=
  s.patterns.zipIdx.filterMap TraitMethod.madeUpName?

/-- Some plain name is written like one that is made up for another input. -/
def Clashes (s : Signature) : Prop :=
  ∃ name ∈ s.plainNames, ∃ other ∈ s.madeUpNames, name.text = other.text

instance decidableClashes (s : Signature) : Decidable s.Clashes :=
  inferInstanceAs
    (Decidable (∃ name ∈ s.plainNames, ∃ other ∈ s.madeUpNames, name.text = other.text))

end Signature

namespace TraitMethod

theorem argumentName_eq (i : Nat) (p : Pattern) :
    argumentName i p = p.plainName?.getD (madeUpName i) := by
  unfold argumentName Pattern.plainName?
  cases p.form with
  | binding name byRef subpattern => cases byRef <;> cases subpattern <;> rfl
  | verbatim => rfl
  | other => rfl

/-- The names of the arguments, by the patterns. -/
theorem map_fst_arguments (s : Signature) :
    (arguments s).map Prod.fst = s.patterns.zipIdx.map fun p => argumentName p.2 p.1 := by
  have hpatterns : ∀ inputs : List FnArg,
      inputs.filterMap FnArg.pattern? = (inputs.filterMap FnArg.parameter?).map Prod.fst := by
    intro inputs
    rw [List.map_filterMap]
    congr 1
    funext input
    cases input <;> rfl
  have htyped : arguments s = (s.inputs.values.filterMap FnArg.parameter?).zipIdx.map
      fun p => (argumentName p.2 p.1.1, p.1.2) := by
    rw [arguments]
    congr 3
    funext input
    cases input <;> rfl
  rw [htyped, Signature.patterns, hpatterns, List.zipIdx_map, List.map_map, List.map_map]
  rfl

/-- Different positions get different names. -/
theorem madeUpName_injective {i j : Nat} (h : (madeUpName i).text = (madeUpName j).text) :
    i = j := by
  have htext : toString i = toString j := (String.append_right_inj "__arg").mp h
  exact Text.toString_nat_injective htext

/-- The names of the arguments are the plain ones and the made-up ones. -/
theorem perm_argumentNames (ps : List Pattern) (n : Nat) :
    ((ps.zipIdx n).map fun p => argumentName p.2 p.1).Perm
      (ps.filterMap Pattern.plainName? ++ (ps.zipIdx n).filterMap madeUpName?) := by
  induction ps generalizing n with
  | nil => exact List.Perm.nil
  | cons p rest ih =>
      -- a plain name goes to the front of the first part, a made-up one to the second's
      rw [List.zipIdx_cons, List.map_cons, List.filterMap_cons, List.filterMap_cons,
        argumentName_eq]
      cases hplain : p.plainName? with
      | some name =>
          have hnone : madeUpName? (p, n) = none := by rw [madeUpName?, hplain]; rfl
          rw [hnone]
          exact (ih (n + 1)).cons name
      | none =>
          have hsome : madeUpName? (p, n) = some (madeUpName n) := by rw [madeUpName?, hplain]; rfl
          rw [hsome]
          exact ((ih (n + 1)).cons _).trans List.perm_middle.symm

/-- No name is made up twice. -/
theorem nodup_madeUpNames (ps : List Pattern) (n : Nat) :
    (((ps.zipIdx n).filterMap madeUpName?).map Ident.text).Nodup := by
  have hkept : (ps.zipIdx n).filterMap madeUpName?
      = (((ps.zipIdx n).filter fun p => p.1.plainName?.isNone).map Prod.snd).map madeUpName := by
    rw [List.map_map]
    exact filterMap_eq_map_filter (fun p => rfl) _
  -- the positions among which names are made up are some of a range
  have hpositions :
      (((ps.zipIdx n).filter fun p => p.1.plainName?.isNone).map Prod.snd).Nodup := by
    refine (List.filter_sublist.map Prod.snd).nodup ?_
    rw [List.zipIdx_map_snd]
    exact List.nodup_range'
  rw [hkept, List.map_map]
  exact hpositions.map fun i j hij => madeUpName_injective hij

end TraitMethod

/-- The plain names are among those that are bound, in the same order. -/
theorem Pattern.sublist_boundNames (ps : List Pattern) :
    (ps.filterMap Pattern.plainName?).Sublist (ps.flatMap Pattern.boundNames) := by
  induction ps with
  | nil => exact List.Sublist.slnil
  | cons p rest ih =>
      rw [List.filterMap_cons, List.flatMap_cons, Pattern.boundNames]
      cases p.plainName? with
      | some name => exact ih.cons_cons name
      | none => exact List.sublist_append_of_sublist_right ih

/-- If all names that the inputs bind differ, the arguments have different names
    exactly if no plain one is written like one that is made up. -/
theorem Signature.nodup_names_iff {s : Signature} (h : (s.boundNames.map Ident.text).Nodup) :
    (((TraitMethod.arguments s).map Prod.fst).map Ident.text).Nodup ↔ ¬s.Clashes := by
  have hplain : (s.plainNames.map Ident.text).Nodup :=
    ((Pattern.sublist_boundNames s.patterns).map Ident.text).nodup h
  have hmadeUp : (s.madeUpNames.map Ident.text).Nodup := TraitMethod.nodup_madeUpNames s.patterns 0
  have hperm := (TraitMethod.perm_argumentNames s.patterns 0).map Ident.text
  rw [TraitMethod.map_fst_arguments, hperm.nodup_iff, List.map_append, List.nodup_append]
  show _ ∧ _ ∧ _ ↔ _
  constructor
  · rintro ⟨-, -, hapart⟩ ⟨name, hname, other, hother, heq⟩
    exact hapart _ (List.mem_map_of_mem hname) _ (List.mem_map_of_mem hother) heq
  · intro hfree
    refine ⟨hplain, hmadeUp, ?_⟩
    intro x hx y hy heq
    obtain ⟨name, hname, rfl⟩ := List.mem_map.mp hx
    obtain ⟨other, hother, rfl⟩ := List.mem_map.mp hy
    exact hfree ⟨name, hname, other, hother, heq⟩

/-- Inputs under plain names bind these names. -/
theorem Renamed.boundNames_eq {inputs inputs' : Separated FnArg} {names : List Ident}
    (h : Renamed inputs names inputs') :
    (inputs'.values.filterMap FnArg.pattern?).flatMap Pattern.boundNames = names := by
  induction h with
  | nil => rfl
  | receiver _ ih => exact ih
  | @typed _ _ _ _ _ name _ _ _ _ ih => exact congrArg (name :: ·) ih

/-- **When parameters share a name.**  If the names that the inputs of a forwarded
    method bind are different, the parameters of its closure and the inputs of its
    forwarding method have different names exactly if none of the plain names is
    written like one that is made up for another input. -/
theorem Wrapper.parameter_names_distinct_iff {a : Attachment} {t : TraitDecl}
    {e : Expansion Wrapper} {w : Wrapper} (h : Wrapper.expand a (.trait t) = .ok e)
    (hw : w ∈ e.items) {m : TraitMethod} (hm : m ∈ t.methods) (hmarked : m.isProperty = false)
    (htakes : m.takesSelf = true) (hbound : (m.signature.boundNames.map Ident.text).Nodup) :
    w.tokens = w.code.tokens w
      ∧ ∃ c : ForwardingCode, w.Forwards c ∧ c.InPlace m.signature
        ∧ ((c.params.map fun p => p.1.text).Nodup ↔ ¬m.signature.Clashes)
        ∧ ((c.signature.boundNames.map Ident.text).Nodup ↔ ¬m.signature.Clashes) := by
  have hplace := WrapperMember.inPlace_forwardingCode m.signature
  have hnames := Signature.nodup_names_iff hbound
  refine ⟨w.tokens_eq_code, _, Wrapper.forwards_of_takesSelf h hw hm hmarked htakes, hplace,
    ?_, ?_⟩
  · rw [List.map_map] at hnames
    exact hnames
  · rw [Signature.boundNames, Signature.patterns, hplace.inputs.boundNames_eq]
    exact hnames

/-- **When a wrapper answers as what it wraps.**  If in each method of a trait the names that the
    inputs bind are different and no plain one is written like one that is made up, a wrapper
    asks the implementor for each of its members with the arguments of the call, and so does a
    wrapper of a wrapper. -/
theorem Wrapper.answers_as_wrapped {a : Attachment} {t : TraitDecl} {e : Expansion Wrapper}
    {w : Wrapper} (h : Wrapper.expand a (.trait t) = .ok e) (hw : w ∈ e.items)
    (hbound : ∀ m ∈ t.methods, (m.signature.boundNames.map Ident.text).Nodup)
    (hfree : ∀ m ∈ t.methods, ¬m.signature.Clashes) (base : Implementor) :
    (∀ method values, w.implementor (w.wrap base) method values
      = ((w.members.find? fun m => m.name.text = method).map
        (WrapperMember.reply base values)).getD .refused)
      ∧ w.implementor (w.wrap (w.implementor (w.wrap base))) = w.implementor (w.wrap base) := by
  have hnames : ∀ s args, WrapperMember.method s args ∈ w.members →
      (args.map fun arg => arg.1.text).Nodup := by
    intro s args hmember
    obtain ⟨-, hquiet, hmembers⟩ := Wrapper.of_mem_expand h hw
    rw [hmembers] at hmember
    obtain ⟨item, hitem, has⟩ :=
      exists_mem_of_forall₂ (Wrapper.forall₂_forwarded_members hquiet) hmember
    -- the arguments of a member are those of the method it forwards
    cases has with
    | method m _ =>
        have hm : m ∈ t.methods :=
          List.mem_filterMap.mpr ⟨.method m, List.mem_of_mem_filter hitem, rfl⟩
        have hdistinct := (Signature.nodup_names_iff (hbound m hm)).mpr (hfree m hm)
        rwa [List.map_map] at hdistinct
  exact ⟨Wrapper.implementor_wrap hnames base, Wrapper.implementor_wrap_wrap hnames base⟩

/-- A crane with two methods that take a pair.  Each has a plain name in the form of a
    made-up one: the first at a position that has a plain name, the second at that of
    the pair. -/
def Sample.crane : Sample where
  source := "trait Crane \x7b #[property] fn reach(&self) -> u8; "
    ++ "fn lift(&self, (a, b): (u8, u8), __arg2: u8, mut n: u8); "
    ++ "fn lower(&self, r#__arg1: u8, (a, b): (u8, u8)); \x7d"

/-- The crane gets a wrapper, and the names that are bound in each of its methods
    differ. -/
theorem Sample.crane_expands :
    ∃ t e w lift lower, Sample.crane.trait? = some t ∧ Wrapper.expand {} (.trait t) = .ok e
      ∧ w ∈ e.items ∧ lift ∈ t.methods ∧ lower ∈ t.methods
      ∧ (∀ m ∈ [lift, lower], m.isProperty = false ∧ m.takesSelf = true
        ∧ (m.signature.boundNames.map Ident.text).Nodup)
      ∧ lift.signature.name.text = "lift" ∧ ¬lift.signature.Clashes
      ∧ lower.signature.name.text = "lower"
      ∧ (TraitMethod.arguments lower.signature).map (fun p => p.1.text)
        = ["__arg1", "__arg1"] := by
  have hcheck : (Sample.crane.trait?.any fun t => (Wrapper.expand {} (.trait t)).toOption.any
      fun e => e.items.head?.any fun _ => t.methods[1]?.any fun lift => t.methods[2]?.any
        fun lower => decide ((∀ m ∈ [lift, lower], m.isProperty = false ∧ m.takesSelf = true
            ∧ (m.signature.boundNames.map Ident.text).Nodup)
          ∧ lift.signature.name.text = "lift" ∧ ¬lift.signature.Clashes
          ∧ lower.signature.name.text = "lower"
          ∧ (TraitMethod.arguments lower.signature).map (fun p => p.1.text)
            = ["__arg1", "__arg1"])) = true := by
    decide +kernel
  obtain ⟨t, ht, hall⟩ := (Option.any_eq_true _ _).mp hcheck
  obtain ⟨e, he, hall⟩ := (Option.any_eq_true _ _).mp hall
  obtain ⟨w, hw, hall⟩ := (Option.any_eq_true _ _).mp hall
  obtain ⟨lift, hlift, hall⟩ := (Option.any_eq_true _ _).mp hall
  obtain ⟨lower, hlower, hall⟩ := (Option.any_eq_true _ _).mp hall
  exact ⟨t, e, w, lift, lower, ht, eq_ok_of_toOption he, List.mem_of_head? hw,
    List.mem_of_getElem? hlift, List.mem_of_getElem? hlower, of_decide_eq_true hall⟩

/-- The parameters of the crane's first method have different names. -/
theorem Sample.crane_lift_parameter_names_distinct :
    ∃ t e w lift, Sample.crane.trait? = some t ∧ Wrapper.expand {} (.trait t) = .ok e
      ∧ w ∈ e.items ∧ lift ∈ t.methods ∧ lift.signature.name.text = "lift"
      ∧ ∃ c : ForwardingCode, w.Forwards c ∧ c.InPlace lift.signature
        ∧ (c.params.map fun p => p.1.text).Nodup
        ∧ (c.signature.boundNames.map Ident.text).Nodup := by
  obtain ⟨t, e, w, lift, lower, ht, he, hw, hlift, -, hforms, hname, hfree, -⟩ :=
    Sample.crane_expands
  obtain ⟨hmarked, htakes, hbound⟩ := hforms lift (by simp)
  obtain ⟨-, c, hforwards, hplace, hparams, hinputs⟩ :=
    Wrapper.parameter_names_distinct_iff he hw hlift hmarked htakes hbound
  exact ⟨t, e, w, lift, ht, he, hw, hlift, hname, c, hforwards, hplace, hparams.mpr hfree,
    hinputs.mpr hfree⟩

/-- Different bound names do not keep parameters apart: in the crane's second method
    the plain name and the one that is made up for the pair are the same. -/
theorem Sample.crane_lower_parameters_share_name :
    ∃ t e w lower, Sample.crane.trait? = some t ∧ Wrapper.expand {} (.trait t) = .ok e
      ∧ w ∈ e.items ∧ lower ∈ t.methods ∧ lower.isProperty = false ∧ lower.takesSelf = true
      ∧ (lower.signature.boundNames.map Ident.text).Nodup
      ∧ ∃ c : ForwardingCode, w.Forwards c ∧ c.InPlace lower.signature
        ∧ (c.params.map fun p => p.1.text) = ["__arg1", "__arg1"]
        ∧ c.signature.boundNames.map Ident.text = ["__arg1", "__arg1"] := by
  obtain ⟨t, e, w, lift, lower, ht, he, hw, -, hlower, hforms, -, -, -, hnames⟩ :=
    Sample.crane_expands
  obtain ⟨hmarked, htakes, hbound⟩ := hforms lower (by simp)
  have hplace := WrapperMember.inPlace_forwardingCode lower.signature
  refine ⟨t, e, w, lower, ht, he, hw, hlower, hmarked, htakes, hbound, _,
    Wrapper.forwards_of_takesSelf he hw hlower hmarked htakes, hplace, hnames, ?_⟩
  rw [Signature.boundNames, Signature.patterns, hplace.inputs.boundNames_eq, List.map_map]
  exact hnames

/-! ## The type parameter of `new` -/

namespace Token

mutual

/-- The identifiers in a tree, at any depth of groups, in order. -/
def idents : Token → List Ident
  | .ident i => [i]
  | .punct .. => []
  | .literal .. => []
  | .group _ content _ => identsAll content

/-- The identifiers in a sequence of trees. -/
def identsAll : List Token → List Ident
  | [] => []
  | t :: ts => t.idents ++ identsAll ts

end

/-- The identifier occurs in the tree, raw or not, at any depth of groups. -/
def names (text : String) (t : Token) : Bool := t.idents.any fun i => i.text == text

/-- The identifier occurs in one of the trees. -/
def namesAny (text : String) (ts : List Token) : Bool :=
  (identsAll ts).any fun i => i.text == text

mutual

/-- What a tree becomes when a parameter of this name stands for the argument. -/
def instantiate (text : String) (argument : Tokens) : Token → Tokens
  | .ident i => if i.text == text then argument else [.ident i]
  | .punct c spacing span => [.punct c spacing span]
  | .literal value span => [.literal value span]
  | .group d content span => [.group d (instantiateAll text argument content) span]

/-- What a sequence becomes. -/
def instantiateAll (text : String) (argument : Tokens) : List Token → Tokens
  | [] => []
  | t :: ts => t.instantiate text argument ++ instantiateAll text argument ts

end

variable {text : String}

@[simp] theorem identsAll_nil : identsAll [] = [] := rfl

@[simp] theorem identsAll_cons (t : Token) (ts : Tokens) :
    identsAll (t :: ts) = t.idents ++ identsAll ts := rfl

@[simp] theorem identsAll_append (ts us : Tokens) :
    identsAll (ts ++ us) = identsAll ts ++ identsAll us := by
  induction ts with
  | nil => rfl
  | cons t ts ih => rw [List.cons_append, identsAll_cons, identsAll_cons, ih, List.append_assoc]

@[simp] theorem idents_word (word : String) : (Token.word word).idents = [{ text := word }] := rfl

@[simp] theorem idents_parens (content : Tokens) :
    (Token.parens content).idents = identsAll content := rfl

/-- Operators hold no identifiers. -/
@[simp] theorem identsAll_op (symbol : String) : identsAll (Tokens.op symbol) = [] := by
  have hglued : ∀ chars : List (Char × Span), identsAll (Tokens.glued chars) = [] := by
    intro chars
    induction chars with
    | nil => rfl
    | cons c rest ih =>
        cases rest with
        | nil => rfl
        | cons c' rest => exact ih
  exact hglued _

/-- A path from the root holds its parts. -/
@[simp] theorem identsAll_globalPath (parts : List String) :
    identsAll (Tokens.globalPath parts) = parts.map fun part => { text := part } := by
  induction parts with
  | nil => rfl
  | cons part parts ih =>
      rw [Tokens.globalPath, List.flatMap_cons, ← Tokens.globalPath, identsAll_append, ih]
      simp

@[simp] theorem identsAll_commaSeparated (all : List Tokens) :
    identsAll (Tokens.commaSeparated all) = all.flatMap identsAll := by
  induction all with
  | nil => rfl
  | cons ts rest ih =>
      cases rest with
      | nil => simp [Tokens.commaSeparated]
      | cons us rest =>
          show identsAll (ts ++ Tokens.op "," ++ Tokens.commaSeparated (us :: rest)) = _
          rw [identsAll_append, identsAll_append, ih]
          simp

theorem namesAny_cons (t : Token) (ts : Tokens) :
    namesAny text (t :: ts) = (t.names text || namesAny text ts) :=
  List.any_append

mutual

/-- A tree that does not name the parameter stays as it is. -/
theorem instantiate_of_not_names (argument : Tokens) :
    ∀ t : Token, t.names text = false → t.instantiate text argument = [t]
  | .ident i, h => by
      have hother : (i.text == text) = false := by simpa [names, idents] using h
      rw [instantiate, hother, if_neg Bool.false_ne_true]
  | .punct .., _ => rfl
  | .literal .., _ => rfl
  | .group d content span, h => by
      rw [instantiate, instantiateAll_of_not_namesAny argument content h]

/-- And so does a sequence. -/
theorem instantiateAll_of_not_namesAny (argument : Tokens) :
    ∀ ts : List Token, namesAny text ts = false → instantiateAll text argument ts = ts
  | [], _ => rfl
  | t :: ts, h => by
      rw [namesAny_cons, Bool.or_eq_false_iff] at h
      rw [instantiateAll, instantiate_of_not_names argument t h.1,
        instantiateAll_of_not_namesAny argument ts h.2]
      rfl

end

theorem sizes_append (ts us : List Token) : sizes (ts ++ us) = sizes ts + sizes us := by
  induction ts with
  | nil => simp [sizes]
  | cons t ts ih => rw [List.cons_append, sizes, sizes, ih]; omega

mutual

/-- A tree shrinks when nothing is put in place of a parameter that it names. -/
theorem sizes_instantiate_nil : ∀ t : Token,
    sizes (t.instantiate text []) + (t.names text).toNat ≤ t.size
  | .ident i => by
      have hnames : (Token.ident i).names text = (i.text == text) := by simp [names, idents]
      rw [instantiate, hnames]
      cases i.text == text with
      | true => exact Nat.le_refl 1
      | false => exact Nat.le_refl 1
  | .punct .. => Nat.le_refl 1
  | .literal .. => Nat.le_refl 1
  | .group d content span => by
      have hcontent := sizes_instantiateAll_nil content
      have hnames : (Token.group d content span).names text = namesAny text content := rfl
      rw [instantiate, hnames, sizes, sizes, size, size]
      omega

/-- And so does a sequence. -/
theorem sizes_instantiateAll_nil : ∀ ts : List Token,
    sizes (instantiateAll text [] ts) + (namesAny text ts).toNat ≤ sizes ts
  | [] => Nat.le_refl 0
  | t :: ts => by
      have hfirst := sizes_instantiate_nil t
      have hrest := sizes_instantiateAll_nil ts
      have hor : (t.names text || namesAny text ts).toNat
          ≤ (t.names text).toNat + (namesAny text ts).toNat := by
        cases t.names text <;> cases namesAny text ts <;> decide
      rw [instantiateAll, namesAny_cons, sizes, sizes_append]
      omega

end

/-- A sequence means the same for each argument exactly if it does not name the
    parameter. -/
theorem instantiateAll_eq_self_iff (ts : Tokens) :
    (∀ argument, instantiateAll text argument ts = ts) ↔ namesAny text ts = false := by
  constructor
  · intro h
    -- nothing in its place would shorten a sequence that names it
    have hshrinks : sizes (instantiateAll text [] ts) + (namesAny text ts).toNat ≤ sizes ts :=
      sizes_instantiateAll_nil ts
    rw [h []] at hshrinks
    cases hnames : namesAny text ts with
    | false => rfl
    | true => rw [hnames, Bool.toNat_true] at hshrinks; omega
  · intro h argument
    exact instantiateAll_of_not_namesAny argument ts h

end Token

/-- Some type of the signature names this. -/
def Signature.NamesType (text : String) (s : Signature) : Prop :=
  ∃ ty ∈ s.allTypes, Token.namesAny text ty.tokens = true

instance Signature.decidableNamesType (text : String) (s : Signature) :
    Decidable (s.NamesType text) :=
  inferInstanceAs (Decidable (∃ ty ∈ s.allTypes, Token.namesAny text ty.tokens = true))

namespace ForwardingCode

/-- The types that `new` repeats for a method: that of the stored closure, which is
    the type of the field, what the closure returns, and those of its parameters. -/
def typesInNew (c : ForwardingCode) : List Tokens :=
  c.field.ty :: c.output :: c.params.map fun p => p.2.tokens

variable {c : ForwardingCode}

/-- What is written around the output of an asynchronous method does not name `T`. -/
theorem namesAny_output : Token.namesAny "T" c.output = Token.namesAny "T" c.result := by
  unfold output
  cases c.boxed with
  | false => rfl
  | true => simp [Token.namesAny, Tokens.core]

/-- Nor does what is written around the types of a closure. -/
theorem namesAny_closureType : Token.namesAny "T" c.closureType
    = (c.types.any (fun ty => Token.namesAny "T" ty.tokens) || Token.namesAny "T" c.result) := by
  unfold closureType
  have houtput : (Token.identsAll c.output).any (fun i => i.text == "T")
      = (Token.identsAll c.result).any fun i => i.text == "T" := namesAny_output
  simp [Token.namesAny, WrapperMember.arc, houtput, List.any_flatMap, Function.comp_def]

/-- The result names what the declared output names. -/
theorem InPlace.namesAny_result {s : Signature} (h : c.InPlace s) :
    Token.namesAny "T" c.result
      = s.outputType?.toList.any fun ty => Token.namesAny "T" ty.tokens := by
  rw [Signature.outputType?]
  cases houtput : s.output.ty? with
  | none => rw [h.resultUnit houtput]; rfl
  | some ty => rw [h.resultType ty houtput]; simp

/-- The types that `new` repeats name `T` exactly if a declared type does. -/
theorem InPlace.names_typesInNew_iff {s : Signature} (h : c.InPlace s) :
    (∃ ts ∈ c.typesInNew, Token.namesAny "T" ts = true) ↔ s.NamesType "T" := by
  have hparams : c.params.map (fun p => p.2.tokens) = s.inputTypes.map Ty.tokens := by
    rw [← h.paramTypes, List.map_map]
    rfl
  have hfield : c.field.ty = c.closureType := rfl
  have hany : c.typesInNew.any (Token.namesAny "T")
      = s.allTypes.any fun ty => Token.namesAny "T" ty.tokens := by
    rw [typesInNew, hparams, hfield, List.any_cons, List.any_cons, List.any_map,
      namesAny_closureType, namesAny_output, h.types, h.namesAny_result, Signature.allTypes,
      List.any_append]
    -- the field's type names what the others do, so they add nothing
    exact (congrArg _ (Bool.or_comm _ _)).trans (Bool.or_self _)
  rw [Signature.NamesType, ← List.any_eq_true, ← List.any_eq_true, hany]

end ForwardingCode

/-- A wrapper is made for the trait that it is named after. -/
theorem Wrapper.traitName_of_mem_expand {a : Attachment} {t : TraitDecl} {e : Expansion Wrapper}
    {w : Wrapper} (h : Wrapper.expand a (.trait t) = .ok e) (hw : w ∈ e.items) :
    w.traitName = t.name := by
  rcases Wrapper.expand_cases h with ⟨-, rfl⟩ | ⟨-, rfl⟩ | ⟨-, rfl⟩ | ⟨-, rfl⟩ | ⟨-, name, -, rfl⟩
  all_goals cases hw
  · rfl
  · contradiction

/-- **When `new` captures a type.**  The function `new` of a wrapper has one type
    parameter, and that is called `T` whatever the trait says.  Of the trait's name and
    of the types of a forwarded method that `new` repeats, it names exactly what the
    author calls so; and these types mean the same in `new`, whatever the parameter
    stands for, as where the fields are declared, exactly if the author has no type of
    this name in the method. -/
theorem Wrapper.new_captures_iff {a : Attachment} {t : TraitDecl} {e : Expansion Wrapper}
    {w : Wrapper} (h : Wrapper.expand a (.trait t) = .ok e) (hw : w ∈ e.items) :
    w.tokens = w.code.tokens w
      ∧ ∃ param : Ident, param.text = "T"
        ∧ w.newFunction.generics = Tokens.op "<" ++ .ident param :: Tokens.op ":"
          ++ .ident t.name :: Tokens.op "+" ++ Tokens.lifetime "static" ++ Tokens.op ">"
        ∧ w.newFunction.params = WrapperMember.base :: Tokens.op ":" ++ [.ident param]
        ∧ ((∀ argument, Token.instantiateAll param.text argument [.ident t.name] = [.ident t.name])
          ↔ t.name.text ≠ param.text)
        ∧ ∀ m ∈ t.methods, m.isProperty = false → m.takesSelf = true →
          ∃ c : ForwardingCode, w.Forwards c ∧ c.InPlace m.signature
            ∧ ((∃ ts ∈ c.typesInNew, Token.namesAny param.text ts = true)
              ↔ m.signature.NamesType param.text)
            ∧ ((∀ ts ∈ c.typesInNew, ∀ argument,
                Token.instantiateAll param.text argument ts = ts)
              ↔ ¬m.signature.NamesType param.text) := by
  refine ⟨w.tokens_eq_code, { text := "T" }, rfl, ?_, rfl, ?_, ?_⟩
  · rw [← Wrapper.traitName_of_mem_expand h hw]
    rfl
  · rw [Token.instantiateAll_eq_self_iff]
    simp [Token.namesAny, Token.idents]
  · intro m hm hmarked htakes
    have hplace := WrapperMember.inPlace_forwardingCode m.signature
    refine ⟨_, Wrapper.forwards_of_takesSelf h hw hm hmarked htakes, hplace,
      hplace.names_typesInNew_iff, ?_⟩
    rw [← hplace.names_typesInNew_iff]
    simp only [Token.instantiateAll_eq_self_iff]
    simp

/-- A shelf with a method that names a type `T` inside others, once raw, and one that
    has only a parameter of this name. -/
def Sample.shelf : Sample where
  source := "trait Shelf \x7b #[property] fn id(&self) -> u8; "
    ++ "async fn take(&self, n: Vec<T>) -> Option<(u8, r#T)>; "
    ++ "fn put(&self, T: u8, at: [Tray; 2]) -> bool; \x7d"

/-- The shelf gets a wrapper, and of its two methods one names `T` as a type. -/
theorem Sample.shelf_expands :
    ∃ t e w take put, Sample.shelf.trait? = some t ∧ Wrapper.expand {} (.trait t) = .ok e
      ∧ w ∈ e.items ∧ take ∈ t.methods ∧ put ∈ t.methods
      ∧ (∀ m ∈ [take, put], m.isProperty = false ∧ m.takesSelf = true)
      ∧ take.signature.name.text = "take" ∧ take.signature.NamesType "T"
      ∧ put.signature.name.text = "put" ∧ ¬put.signature.NamesType "T" := by
  have hcheck : (Sample.shelf.trait?.any fun t => (Wrapper.expand {} (.trait t)).toOption.any
      fun e => e.items.head?.any fun _ => t.methods[1]?.any fun take => t.methods[2]?.any
        fun put => decide ((∀ m ∈ [take, put], m.isProperty = false ∧ m.takesSelf = true)
          ∧ take.signature.name.text = "take" ∧ take.signature.NamesType "T"
          ∧ put.signature.name.text = "put" ∧ ¬put.signature.NamesType "T")) = true := by
    decide +kernel
  obtain ⟨t, ht, hall⟩ := (Option.any_eq_true _ _).mp hcheck
  obtain ⟨e, he, hall⟩ := (Option.any_eq_true _ _).mp hall
  obtain ⟨w, hw, hall⟩ := (Option.any_eq_true _ _).mp hall
  obtain ⟨take, htake, hall⟩ := (Option.any_eq_true _ _).mp hall
  obtain ⟨put, hput, hall⟩ := (Option.any_eq_true _ _).mp hall
  exact ⟨t, e, w, take, put, ht, eq_ok_of_toOption he, List.mem_of_head? hw,
    List.mem_of_getElem? htake, List.mem_of_getElem? hput, of_decide_eq_true hall⟩

/-- The types of the shelf's second method mean the same in `new`. -/
theorem Sample.shelf_put_new_captures_nothing :
    ∃ t e w put, Sample.shelf.trait? = some t ∧ Wrapper.expand {} (.trait t) = .ok e
      ∧ w ∈ e.items ∧ put ∈ t.methods ∧ put.signature.name.text = "put"
      ∧ ∃ c : ForwardingCode, w.Forwards c ∧ c.InPlace put.signature
        ∧ ∀ ts ∈ c.typesInNew, ∀ argument, Token.instantiateAll "T" argument ts = ts := by
  obtain ⟨t, e, w, take, put, ht, he, hw, -, hput, hforms, -, -, hname, hfree⟩ :=
    Sample.shelf_expands
  obtain ⟨hmarked, htakes⟩ := hforms put (by simp)
  obtain ⟨-, param, hparam, -, -, -, hmethods⟩ := Wrapper.new_captures_iff he hw
  obtain ⟨c, hforwards, hplace, -, hkept⟩ := hmethods put hput hmarked htakes
  rw [hparam] at hkept
  exact ⟨t, e, w, put, ht, he, hw, hput, hname, c, hforwards, hplace, hkept.mpr hfree⟩

/-- Types of the author are captured: in the shelf's wrapper `new` has a parameter `T`,
    and the type of the closure for the first method, which the field has too, names it
    and changes with what the parameter stands for. -/
theorem Sample.shelf_take_type_captured :
    ∃ t e w take, Sample.shelf.trait? = some t ∧ Wrapper.expand {} (.trait t) = .ok e
      ∧ w ∈ e.items ∧ take ∈ t.methods ∧ take.isProperty = false ∧ take.takesSelf = true
      ∧ w.newFunction.params = WrapperMember.base :: Tokens.op ":" ++ [.word "T"]
      ∧ ∃ c : ForwardingCode, w.Forwards c ∧ c.InPlace take.signature
        ∧ ∃ ts ∈ c.typesInNew, Token.namesAny "T" ts = true
          ∧ ∃ argument, Token.instantiateAll "T" argument ts ≠ ts := by
  obtain ⟨t, e, w, take, put, ht, he, hw, htake, -, hforms, -, hnames, -⟩ :=
    Sample.shelf_expands
  obtain ⟨hmarked, htakes⟩ := hforms take (by simp)
  have hplace := WrapperMember.inPlace_forwardingCode take.signature
  refine ⟨t, e, w, take, ht, he, hw, htake, hmarked, htakes, rfl, _,
    Wrapper.forwards_of_takesSelf he hw htake hmarked htakes, hplace, ?_⟩
  obtain ⟨ts, hts, hnamed⟩ := hplace.names_typesInNew_iff.mpr hnames
  refine ⟨ts, hts, hnamed, not_forall.mp ?_⟩
  rw [Token.instantiateAll_eq_self_iff, hnamed]
  exact Bool.noConfusion

/-! ## The members of a builder -/

/-- The names of the author among the members of a builder. -/
def StructDecl.memberNames (d : StructDecl) : List Ident := d.typedFields.filterMap Field.name

/-- A structure for which something is generated can be read. -/
theorem exists_properties_of_mem_expandStruct {α : Type} {m : AttachedMacro} {a : Attachment}
    {d : StructDecl} {generate : StructTarget → Except Crash α} {e : Expansion α} {g : α}
    (h : expandStruct m a (.struct d) generate = .ok e) (hg : g ∈ e.items) :
    ∃ ps, (Item.struct d).properties = .ok ps := by
  cases hread : (Item.struct d).properties with
  | ok ps => exact ⟨ps, rfl⟩
  | error failure =>
      unfold expandStruct Item.storedProperties at h
      rw [hread] at h
      cases failure with
      | fault f => cases h; cases hg
      | crash c => cases h

/-- The typed properties have the names of the members. -/
theorem Property.filterMap_name_typed {d : StructDecl} {ps : List Property}
    (hread : (Item.struct d).properties = .ok ps) :
    (Property.typed ps).filterMap Property.name = d.memberNames := by
  symm
  refine filterMap_congr_of_forall₂ ?_ (StructDecl.forall₂_typedFields hread)
  intro f p hfp
  exact (Property.ofField_fixed hfp).1.symm

namespace Builder

/-- The fields of a builder have the names of the members, and its generics are those of
    the structure. -/
theorem map_name_of_mem_expand {a : Attachment} {d : StructDecl} {e : Expansion Builder}
    {b : Builder} (h : Builder.expand a (.struct d) = .ok e) (hb : b ∈ e.items) :
    b.fields.map BuilderField.name = d.memberNames ∧ b.target.generics = d.generics
      ∧ b.name.text ≠ b.target.name.text := by
  obtain ⟨ps, hread⟩ := exists_properties_of_mem_expandStruct h hb
  obtain ⟨hgenerated, -⟩ := of_mem_expandStruct hread h hb
  have hfor := Builder.isFor_ofTarget hgenerated
  refine ⟨?_, ?_, hfor.name_ne_target⟩
  · rw [hfor.map_name, Property.filterMap_name_typed hread]
  · rw [hfor.target]

variable (b : Builder)

theorem map_fst_declared : b.declared.map Prod.fst
    = b.fields.map BuilderField.name ++ (if b.isGeneric then [markerName] else []) := by
  rw [declared, List.map_append, List.map_map]
  cases b.isGeneric <;> rfl

theorem map_name_functions : b.functions.map Function.name
    = { text := "new" } :: b.fields.map BuilderField.name ++ [{ text := "build" }] := by
  rw [functions, List.map_append, List.map_cons, setters, List.map_map, List.map_map]
  rfl

end Builder

/-- **When a builder has a member twice.**  In what is printed for it, a builder declares the
    typed fields of the structure and, if the structure is generic, one that mentions the
    target; its functions are `new`, the setters of the same fields, and `build`.  If the
    fields of the structure have different names, so have those that the builder declares,
    unless the structure is generic and a typed field is called `_target`; and so have its
    functions, unless a typed field is called `new` or `build`. -/
theorem Builder.members_distinct_iff {a : Attachment} {d : StructDecl} {e : Expansion Builder}
    {b : Builder} (h : Builder.expand a (.struct d) = .ok e) (hb : b ∈ e.items)
    (hnames : ((d.fields.list.filterMap Field.name).map Ident.text).Nodup) :
    b.tokens = b.code.tokens
      ∧ b.code.fields b.name.text = b.declared
      ∧ (b.code.methods b.name.text).map Method.function = b.functions
      ∧ b.declared.map Prod.fst
        = d.memberNames ++ (if d.generics.params = [] then [] else [{ text := "_target" }])
      ∧ b.functions.map Function.name
        = { text := "new" } :: d.memberNames ++ [{ text := "build" }]
      ∧ ((b.declared.map fun f => f.1.text).Nodup
        ↔ ¬(d.generics.params ≠ [] ∧ "_target" ∈ d.memberNames.map Ident.text))
      ∧ ((b.functions.map fun f => f.name.text).Nodup
        ↔ "new" ∉ d.memberNames.map Ident.text ∧ "build" ∉ d.memberNames.map Ident.text) := by
  obtain ⟨hfields, hgenerics, hname⟩ := Builder.map_name_of_mem_expand h hb
  have hmembers : (d.memberNames.map Ident.text).Nodup :=
    ((List.filter_sublist.filterMap Field.name).map Ident.text).nodup hnames
  have hdeclared : b.declared.map Prod.fst
      = d.memberNames ++ (if d.generics.params = [] then [] else [{ text := "_target" }]) := by
    rw [b.map_fst_declared, hfields, Builder.isGeneric, hgenerics]
    cases d.generics.params <;> rfl
  have hfunctions : b.functions.map Function.name
      = { text := "new" } :: d.memberNames ++ [{ text := "build" }] := by
    rw [b.map_name_functions, hfields]
  refine ⟨b.tokens_eq_code, b.fields_code, ?_, hdeclared, hfunctions, ?_, ?_⟩
  · rw [Builder.methods_code hname, b.functions_eq]
  · show (b.declared.map (Ident.text ∘ Prod.fst)).Nodup ↔ _
    rw [← List.map_map, hdeclared, List.map_append, List.nodup_append]
    by_cases hgeneric : d.generics.params = []
    · simp [hmembers, hgeneric]
    · simp [hmembers, hgeneric]
  · show (b.functions.map (Ident.text ∘ Function.name)).Nodup ↔ _
    rw [← List.map_map, hfunctions, List.map_append, List.nodup_append, List.map_cons,
      List.nodup_cons]
    simp [hmembers]

/-- A kiln whose fields with the names of other members carry no data. -/
def Sample.kiln : Sample where
  source := "struct Kiln<T> \x7b heat: T, r#type: u8, _target: PhantomData<T>, "
    ++ "new: PhantomData<u8>, build: std::marker::PhantomData<u8> \x7d"

/-- The members of a kiln's builder are different. -/
theorem Sample.kiln_members_distinct :
    ∃ d e b, Sample.kiln.struct? = some d ∧ Builder.expand {} (.struct d) = .ok e
      ∧ b ∈ e.items ∧ d.generics.params ≠ []
      ∧ ((d.fields.list.filterMap Field.name).map Ident.text).Nodup
      ∧ (b.declared.map fun f => f.1.text).Nodup
      ∧ (b.functions.map fun f => f.name.text).Nodup := by
  have hcheck : (Sample.kiln.struct?.any fun d => (Builder.expand {} (.struct d)).toOption.any
      fun e => e.items.head?.any fun _ => decide (d.generics.params.length = 1
        ∧ ((d.fields.list.filterMap Field.name).map Ident.text).Nodup
        ∧ d.memberNames.map Ident.text = ["heat", "type"])) = true := by
    decide +kernel
  obtain ⟨d, hd, hall⟩ := (Option.any_eq_true _ _).mp hcheck
  obtain ⟨e, he, hall⟩ := (Option.any_eq_true _ _).mp hall
  obtain ⟨b, hb, hall⟩ := (Option.any_eq_true _ _).mp hall
  obtain ⟨hgeneric, hnames, hmembers⟩ := of_decide_eq_true hall
  have he := eq_ok_of_toOption he
  have hb := List.mem_of_head? hb
  obtain ⟨-, -, -, -, -, hdeclared, hfunctions⟩ := Builder.members_distinct_iff he hb hnames
  rw [hmembers] at hdeclared hfunctions
  exact ⟨d, e, b, hd, he, hb, List.ne_nil_of_length_eq_add_one hgeneric, hnames,
    hdeclared.mpr (by simp), hfunctions.mpr (by simp)⟩

/-- A vat whose fields have the names that a builder has of its own. -/
def Sample.vat : Sample where
  source := "struct Vat<'a> \x7b _target: &'a u8, new: u8, r#build: u8 \x7d"

/-- Different fields do not keep members apart: the vat's builder declares a field twice
    and defines two functions twice. -/
theorem Sample.vat_members_twice :
    ∃ d e b, Sample.vat.struct? = some d ∧ Builder.expand {} (.struct d) = .ok e
      ∧ b ∈ e.items ∧ ((d.fields.list.filterMap Field.name).map Ident.text).Nodup
      ∧ (b.declared.map fun f => f.1.text) = ["_target", "new", "build", "_target"]
      ∧ (b.functions.map fun f => f.name.text) = ["new", "_target", "new", "build", "build"] := by
  have hcheck : (Sample.vat.struct?.any fun d => (Builder.expand {} (.struct d)).toOption.any
      fun e => e.items.head?.any fun b => decide (
        ((d.fields.list.filterMap Field.name).map Ident.text).Nodup
        ∧ (b.declared.map fun f => f.1.text) = ["_target", "new", "build", "_target"]
        ∧ (b.functions.map fun f => f.name.text)
          = ["new", "_target", "new", "build", "build"])) = true := by
    decide +kernel
  obtain ⟨d, hd, hall⟩ := (Option.any_eq_true _ _).mp hcheck
  obtain ⟨e, he, hall⟩ := (Option.any_eq_true _ _).mp hall
  obtain ⟨b, hb, hall⟩ := (Option.any_eq_true _ _).mp hall
  exact ⟨d, e, b, hd, eq_ok_of_toOption he, List.mem_of_head? hb, of_decide_eq_true hall⟩

end DeclMacros
