import DeclMacros.Meaning.Forwarding
import DeclMacros.Proofs.Wrapping

/-! # Forwarding keeps every argument in its place

    The arguments of a method stand in five places of a wrapper's code: in the type
    of the stored closure, in the parameters of the closure, in the call that it
    makes, in the signature of the forwarding method, and in its call of the
    closure.

    The route: the code of a method is printed from the five lists and a few flags
    (`ForwardingCode`), so what stands where is a question about lists.  They all
    come from the arguments of the signature, whose types are the declared ones
    (`map_snd_arguments`).  The forwarding signature is the declared one with a plain
    name in place of each pattern (`renamed_rename`), and there are as many names as
    patterns.

    At the end the same is said of values: a call by name hands on the values in
    order (`WrapperMember.passedOn_eq_take`), so a wrapper answers as what it
    wraps. -/

set_option autoImplicit false

namespace DeclMacros

/-! ## Code in which arguments stand -/

/-- What the code for a method is printed from. -/
structure ForwardingCode where
  /-- The name of the method and of its field. -/
  name : Ident
  /-- The types in the type of the stored closure. -/
  types : List Ty
  /-- The parameters of the closure. -/
  params : List (Ident × Ty)
  /-- What the method returns. -/
  result : Tokens
  /-- The closure returns it as a boxed future. -/
  boxed : Bool
  /-- What the closure hands to the wrapped value. -/
  inner : List Ident
  /-- The closure waits for the wrapped value. -/
  innerAwaits : Bool
  /-- The signature of the forwarding method. -/
  signature : Signature
  /-- What the forwarding method hands to the closure. -/
  outer : List Ident
  /-- The forwarding method waits for the closure. -/
  outerAwaits : Bool

namespace ForwardingCode

open WrapperMember (arc base shareBase)

variable (c : ForwardingCode)

/-- The return type of the closure. -/
def output : Tokens :=
  if c.boxed then
    Tokens.core ["pin", "Pin"] ++ Tokens.op "<" ++ Tokens.globalPath ["std", "boxed", "Box"]
      ++ Tokens.op "<" ++ .word "dyn" :: Tokens.core ["future", "Future"] ++ Tokens.op "<"
      ++ .word "Output" :: Tokens.op "=" ++ c.result ++ Tokens.op ">>" ++ Tokens.op ">"
  else c.result

/-- The type of the stored closure. -/
def closureType : Tokens :=
  arc [] ++ Tokens.op "<" ++ [.word "dyn", .word "Fn",
      .parens (Tokens.commaSeparated (c.types.map Ty.tokens))]
    ++ Tokens.op "->" ++ c.output ++ Tokens.op ">"

/-- The call that the closure makes. -/
def innerCall (traitName : Ident) : Tokens :=
  Tokens.op "<" ++ [.word "T", .word "as", .ident traitName] ++ Tokens.op ">" ++ Tokens.op "::"
    ++ [.ident c.name, .parens (Tokens.op "&" ++ Tokens.op "*" ++ base
      :: c.inner.flatMap fun name => Tokens.op "," ++ [.ident name])]

/-- The body of the closure. -/
def closureBody (traitName : Ident) : Tokens :=
  if c.innerAwaits then
    shareBase ++ Tokens.globalPath ["std", "boxed", "Box", "pin"]
      ++ [.parens [.word "async", .word "move",
        .braces (c.innerCall traitName ++ Tokens.op "." ++ [.word "await"])]]
  else c.innerCall traitName

/-- The closure. -/
def closure (traitName : Ident) : Tokens :=
  .word "move" :: Tokens.op "|"
    ++ Tokens.commaSeparated (c.params.map fun p => typedName p.1 p.2.tokens)
    ++ Tokens.op "|" ++ Tokens.op "->" ++ c.output ++ [.braces (c.closureBody traitName)]

/-- The field that stores the closure. -/
def field : FieldDecl := ⟨[], c.name, c.closureType⟩

/-- The statement that makes the closure. -/
def capture (traitName : Ident) : LetStatement where
  name := c.name
  rest := Tokens.op ":" ++ c.closureType ++ Tokens.op "="
    ++ [.braces (shareBase ++ arc ["new"] ++ [.parens (c.closure traitName)])] ++ Tokens.op ";"

/-- The forwarding method. -/
def method : MethodDef where
  signature := c.signature
  body := [.parens (Tokens.selfField c.name),
      .parens (Tokens.commaSeparated (c.outer.map fun name => [.ident name]))]
    ++ if c.outerAwaits then Tokens.op "." ++ [.word "await"] else []

end ForwardingCode

/-! ## Inputs under plain names -/

/-- The type of an input; a receiver has none. -/
def FnArg.ty? : FnArg → Option Ty
  | .receiver .. => none
  | .typed _ _ _ ty => some ty

/-- The pattern that is just a name. -/
def Pattern.plain (name : Ident) : Pattern :=
  { tokens := [.ident name], form := .binding name false false, binds := [name] }

/-- Inputs are taken over under plain names: receivers stay, and any other input keeps
    its type and gets the next name in place of its pattern and its attributes. -/
inductive Renamed : Separated FnArg → List Ident → Separated FnArg → Prop where
  | nil : Renamed [] [] []
  | receiver {attrs : List Attribute} {reference lifetime mutability separator : Tokens}
      {self : Token} {inputs inputs' : Separated FnArg} {names : List Ident} :
      Renamed inputs names inputs' →
      Renamed ((.receiver attrs reference lifetime mutability self, separator) :: inputs) names
        ((.receiver attrs reference lifetime mutability self, separator) :: inputs')
  | typed {attrs : List Attribute} {pattern : Pattern} {colon separator : Tokens} {ty : Ty}
      {name : Ident} {inputs inputs' : Separated FnArg} {names : List Ident} :
      Renamed inputs names inputs' →
      Renamed ((.typed attrs pattern colon ty, separator) :: inputs) (name :: names)
        ((.typed [] (.plain name) colon ty, separator) :: inputs')

theorem Signature.inputTypes_eq (s : Signature) :
    s.inputTypes = s.inputs.values.filterMap FnArg.ty? := by
  rw [Signature.inputTypes]
  congr 1
  funext input
  cases input <;> rfl

/-- Inputs keep their types under other names. -/
theorem Renamed.types_eq {inputs inputs' : Separated FnArg} {names : List Ident}
    (h : Renamed inputs names inputs') :
    inputs'.values.filterMap FnArg.ty? = inputs.values.filterMap FnArg.ty? := by
  induction h with
  | nil => rfl
  | receiver _ ih => exact ih
  | @typed _ _ _ _ ty _ _ _ _ _ ih => exact congrArg (ty :: ·) ih

/-- If there are as many names as inputs with a type, each of them is renamed. -/
theorem WrapperMember.renamed_rename {inputs : Separated FnArg} {names : List Ident}
    (h : names.length = (inputs.values.filterMap FnArg.ty?).length) :
    Renamed inputs names (rename inputs names) := by
  induction inputs generalizing names with
  | nil =>
      rw [List.eq_nil_of_length_eq_zero h]
      exact .nil
  | cons input rest ih =>
      obtain ⟨input, separator⟩ := input
      cases input with
      | receiver attrs reference lifetime mutability self => exact .receiver (ih h)
      | typed attrs pattern colon ty =>
          cases names with
          | nil => exact nomatch h
          | cons name names => exact .typed (ih (Nat.succ.inj h))

/-- The arguments have the declared types, in order. -/
theorem TraitMethod.map_snd_arguments (s : Signature) :
    (arguments s).map Prod.snd = s.inputTypes := by
  have hindexed : ∀ (typed : List (Pattern × Ty)) (n : Nat),
      ((typed.zipIdx n).map fun p => (argumentName p.2 p.1.1, p.1.2)).map Prod.snd
        = typed.map Prod.snd := by
    intro typed
    induction typed with
    | nil => intro n; rfl
    | cons p rest ih => intro n; exact congrArg (p.2 :: ·) (ih (n + 1))
  rw [arguments]
  refine (hindexed _ 0).trans ?_
  rw [List.map_filterMap, Signature.inputTypes]
  congr 1
  funext input
  cases input <;> rfl

/-! ## Every argument in its place -/

/-- The code for a method keeps the declared arguments in place. -/
structure ForwardingCode.InPlace (s : Signature) (c : ForwardingCode) : Prop where
  name : c.name = s.name
  /-- The types are the declared ones, in the type of the stored closure, -/
  types : c.types = s.inputTypes
  /-- in the parameters of the closure, -/
  paramTypes : c.params.map Prod.snd = s.inputTypes
  /-- and in the forwarding signature. -/
  inputTypes : c.signature.inputTypes = s.inputTypes
  /-- The parameters of the closure are what it hands to the wrapped value. -/
  inner : c.inner = c.params.map Prod.fst
  /-- They have the names that the forwarding method hands to the closure, -/
  outer : c.outer = c.params.map Prod.fst
  /-- and that its own inputs have. -/
  inputs : Renamed s.inputs (c.params.map Prod.fst) c.signature.inputs
  /-- All else in the forwarding signature is as declared. -/
  signature : c.signature = { s with inputs := c.signature.inputs }
  /-- What is returned is the declared type, -/
  resultType : ∀ ty, s.output.ty? = some ty → c.result = ty.tokens
  /-- or nothing if none is written; -/
  resultUnit : s.output.ty? = none → c.result = [.parens []]
  /-- it is boxed as a future if the method is asynchronous, -/
  boxed : c.boxed = s.isAsync
  /-- and then both calls wait for it. -/
  innerAwaits : c.innerAwaits = s.isAsync
  outerAwaits : c.outerAwaits = s.isAsync

/-- How many arguments stand in each of the five places. -/
def ForwardingCode.counts (c : ForwardingCode) : List Nat :=
  [c.types.length, c.params.length, c.inner.length, c.signature.inputTypes.length, c.outer.length]

/-- There are as many as are declared. -/
theorem ForwardingCode.InPlace.counts_eq {s : Signature} {c : ForwardingCode} (h : c.InPlace s) :
    ∀ n ∈ c.counts, n = s.inputTypes.length := by
  have hparams : c.params.length = s.inputTypes.length := by
    rw [← h.paramTypes, List.length_map]
  simp [counts, h.types, h.inner, h.inputTypes, h.outer, hparams]

namespace WrapperMember

/-- The code of a method of the wrapper, with its arguments. -/
def forwardingCode (s : Signature) (args : List (Ident × Ty)) : ForwardingCode where
  name := s.name
  types := args.map Prod.snd
  params := args
  result := outputTokens s
  boxed := s.isAsync
  inner := args.map Prod.fst
  innerAwaits := s.isAsync
  signature := forwardSignature s args
  outer := args.map Prod.fst
  outerAwaits := s.isAsync

variable (s : Signature) (args : List (Ident × Ty))

theorem closureType_eq : closureType s args = (forwardingCode s args).closureType := by
  rw [closureType, ForwardingCode.closureType, forwardingCode, List.map_map]
  rfl

theorem closureBody_eq (traitName : Ident) :
    closureBody traitName s args = (forwardingCode s args).closureBody traitName := by
  rw [closureBody, ForwardingCode.closureBody, ForwardingCode.innerCall, traitCall, forwardingCode,
    List.flatMap_map]

/-- The field of a method is printed from its code. -/
theorem fieldDecl_eq (vis : Tokens) :
    (method s args).fieldDecl vis = (forwardingCode s args).field := by
  rw [fieldDecl, closureType_eq]
  rfl

/-- The statement that makes the closure is printed from the code. -/
theorem letStatement_eq (traitName : Ident) :
    (method s args).letStatement traitName = (forwardingCode s args).capture traitName := by
  rw [letStatement, capture, closureType_eq, closureBody_eq]
  rfl

/-- The forwarding method is printed from the code. -/
theorem methodDef_eq : (method s args).methodDef = (forwardingCode s args).method := by
  rw [methodDef, callBody, ForwardingCode.method, forwardingCode, List.map_map]
  rfl

/-- The code for a signature with its own arguments keeps them in place. -/
theorem inPlace_forwardingCode : (forwardingCode s (TraitMethod.arguments s)).InPlace s := by
  have htypes := TraitMethod.map_snd_arguments s
  have hinputs : Renamed s.inputs ((TraitMethod.arguments s).map Prod.fst)
      (forwardSignature s (TraitMethod.arguments s)).inputs := by
    refine renamed_rename ?_
    rw [← Signature.inputTypes_eq, ← htypes, List.length_map, List.length_map]
  constructor
  · rfl
  · exact htypes
  · exact htypes
  · rw [Signature.inputTypes_eq, Signature.inputTypes_eq]
    exact hinputs.types_eq
  · rfl
  · rfl
  · exact hinputs
  · rfl
  · intro ty hty
    show outputTokens s = _
    rw [outputTokens, hty]
  · intro hnone
    show outputTokens s = _
    rw [outputTokens, hnone]
  · rfl
  · rfl
  · rfl

end WrapperMember

/-! ## The code of one method in a wrapper -/

/-- The wrapper has the field, the statement of `new` and the method that are printed
    from the code. -/
structure Wrapper.Forwards (w : Wrapper) (c : ForwardingCode) : Prop where
  field : c.field ∈ w.code.fields
  capture : c.capture w.traitName ∈ w.code.captures
  method : c.method ∈ w.code.methods

/-- A method among the members is forwarded with its arguments. -/
theorem Wrapper.forwards_of_mem_members {w : Wrapper} {s : Signature} {args : List (Ident × Ty)}
    (h : WrapperMember.method s args ∈ w.members) :
    w.Forwards (WrapperMember.forwardingCode s args) := by
  constructor
  · rw [← WrapperMember.fieldDecl_eq _ _ w.vis]
    exact List.mem_map_of_mem h
  · rw [← WrapperMember.letStatement_eq]
    exact List.mem_map_of_mem (List.mem_filter.mpr ⟨h, rfl⟩)
  · rw [← WrapperMember.methodDef_eq]
    exact List.mem_map_of_mem h

/-- A method that takes the value itself and is no property is forwarded with its own
    arguments. -/
theorem Wrapper.forwards_of_takesSelf {a : Attachment} {t : TraitDecl} {e : Expansion Wrapper}
    {w : Wrapper} (h : Wrapper.expand a (.trait t) = .ok e) (hw : w ∈ e.items) {m : TraitMethod}
    (hm : m ∈ t.methods) (hmarked : m.isProperty = false) (htakes : m.takesSelf = true) :
    w.Forwards
      (WrapperMember.forwardingCode m.signature (TraitMethod.arguments m.signature)) := by
  obtain ⟨-, hquiet, hmembers⟩ := Wrapper.of_mem_expand h hw
  have hforwarded : TraitItem.method m ∈ t.items.filter TraitItem.isForwarded := by
    refine List.mem_filter.mpr ⟨TraitDecl.mem_items_of_mem_methods hm, ?_⟩
    rw [TraitItem.isForwarded_of_takesSelf htakes, TraitMethod.isLeftToDefault, hmarked]
    rfl
  obtain ⟨member, hmember, has⟩ :=
    exists_mem_of_forall₂ (Wrapper.forall₂_forwarded_members hquiet).flip hforwarded
  rw [← hmembers] at hmember
  cases has with
  | property m ty hproperty => rw [hmarked] at hproperty; cases hproperty
  | method m _ => exact Wrapper.forwards_of_mem_members hmember

/-- **Arguments stay in place.**  In the code of a wrapper, each method of the trait
    that takes the value itself and is no property has a field, a statement of `new`
    that makes its closure, and a forwarding method.  The three are printed from one
    description, in which all lists of arguments are the declared one: the same
    number of them, the same types and the same names at each position, in a
    signature that is the declared one but for patterns and attributes; both calls
    wait exactly if the method is asynchronous, and exactly then the declared output
    is boxed as a future. -/
theorem Wrapper.forwards_arguments_in_place {a : Attachment} {t : TraitDecl}
    {e : Expansion Wrapper} {w : Wrapper} (h : Wrapper.expand a (.trait t) = .ok e)
    (hw : w ∈ e.items) {m : TraitMethod} (hm : m ∈ t.methods) (hmarked : m.isProperty = false)
    (htakes : m.takesSelf = true) :
    w.tokens = w.code.tokens w
      ∧ ∃ c : ForwardingCode, c.field ∈ w.code.fields
        ∧ c.capture w.traitName ∈ w.code.captures
        ∧ c.method ∈ w.code.methods
        ∧ (∀ n ∈ c.counts, n = m.signature.inputTypes.length)
        ∧ c.InPlace m.signature := by
  have hplace := WrapperMember.inPlace_forwardingCode m.signature
  obtain ⟨hfield, hcapture, hmethod⟩ := Wrapper.forwards_of_takesSelf h hw hm hmarked htakes
  exact ⟨w.tokens_eq_code, _, hfield, hcapture, hmethod, hplace.counts_eq, hplace⟩

/-- A courier with an asynchronous method, whose inputs have a pattern, an attribute
    and a plain name. -/
def Sample.courier : Sample where
  source := "trait Courier \x7b #[property] fn id(&self) -> u8; "
    ++ "async fn send(&self, (a, b): (u8, u16), #[used] mut n: u32, to: String) -> bool; \x7d"

/-- The three arguments of the courier's method stay in place, and both calls wait. -/
theorem Sample.courier_forwards_arguments_in_place :
    ∃ t e w send, Sample.courier.trait? = some t ∧ Wrapper.expand {} (.trait t) = .ok e
      ∧ w ∈ e.items ∧ send ∈ t.methods ∧ send.isProperty = false ∧ send.takesSelf = true
      ∧ send.signature.name.text = "send"
      ∧ ∃ c : ForwardingCode, c.field ∈ w.code.fields ∧ c.capture w.traitName ∈ w.code.captures
        ∧ c.method ∈ w.code.methods ∧ c.InPlace send.signature
        ∧ c.outer.length = 3 ∧ c.innerAwaits = true ∧ c.outerAwaits = true ∧ c.boxed = true := by
  have hcheck : (Sample.courier.trait?.any fun t => (Wrapper.expand {} (.trait t)).toOption.any
      fun e => e.items.head?.any fun _ => t.methods[1]?.any fun send => decide (
        send.isProperty = false ∧ send.takesSelf = true ∧ send.signature.name.text = "send"
          ∧ send.signature.inputTypes.length = 3 ∧ send.signature.isAsync = true)) = true := by
    decide +kernel
  obtain ⟨t, ht, hall⟩ := (Option.any_eq_true _ _).mp hcheck
  obtain ⟨e, he, hall⟩ := (Option.any_eq_true _ _).mp hall
  obtain ⟨w, hw, hall⟩ := (Option.any_eq_true _ _).mp hall
  obtain ⟨send, hsend, hall⟩ := (Option.any_eq_true _ _).mp hall
  obtain ⟨hmarked, htakes, hname, hcount, hasync⟩ := of_decide_eq_true hall
  have he := eq_ok_of_toOption he
  have hw := List.mem_of_head? hw
  have hsend := List.mem_of_getElem? hsend
  obtain ⟨-, c, hfield, hcapture, hmethod, hcounts, hplace⟩ :=
    Wrapper.forwards_arguments_in_place he hw hsend hmarked htakes
  refine ⟨t, e, w, send, ht, he, hw, hsend, hmarked, htakes, hname, c, hfield, hcapture, hmethod,
    hplace, ?_, ?_, ?_, ?_⟩
  · rw [hcounts c.outer.length (by simp [ForwardingCode.counts]), hcount]
  · rw [hplace.innerAwaits, hasync]
  · rw [hplace.outerAwaits, hasync]
  · rw [hplace.boxed, hasync]

/-! ## What a wrapper answers -/

/-- Parameters with different names pass on what they are given. -/
theorem WrapperMember.passedOn_eq_take {args : List (Ident × Ty)}
    (h : (args.map fun arg => arg.1.text).Nodup) (values : List Value) :
    passedOn args values = values.take args.length := by
  unfold passedOn
  induction args generalizing values with
  | nil => rfl
  | cons arg rest ih =>
      rw [List.map_cons, List.nodup_cons] at h
      cases values with
      | nil => simp
      | cons v values =>
          -- the later parameters do not see the first value
          have hrest : ∀ other ∈ rest,
              (((arg :: rest).map fun arg => arg.1.text).zip (v :: values)).lookup other.1.text
                = ((rest.map fun arg => arg.1.text).zip values).lookup other.1.text := by
            intro other hother
            have hne : (other.1.text == arg.1.text) = false := by
              rw [beq_eq_false_iff_ne]
              intro hsame
              exact h.1 (hsame ▸ List.mem_map_of_mem hother)
            rw [List.map_cons, List.zip_cons_cons, List.lookup_cons, hne]
          have hfirst : (((arg :: rest).map fun arg => arg.1.text).zip (v :: values)).lookup
              arg.1.text = some v := List.lookup_cons_self
          rw [List.filterMap_cons, hfirst, List.filterMap_congr hrest, List.length_cons,
            List.take_succ_cons, ← ih h.2 values]

/-- What a member answers by asking an implementor: a property without arguments, and a method with
    as many as it has parameters. -/
def WrapperMember.reply (base : Implementor) (values : List Value) : WrapperMember → Reply
  | .property s _ => base s.name.text []
  | .method s args => base s.name.text (values.take args.length)

namespace Wrapper

variable {w : Wrapper}

/-- What is kept under a name is kept for the first member of that name. -/
theorem lookup_wrap (w : Wrapper) (base : Implementor) (name : String) :
    (w.wrap base).lookup name
      = (w.members.find? fun m => m.name.text = name).map fun m => (m.keep base).2 := by
  unfold wrap
  induction w.members with
  | nil => rfl
  | cons m rest ih =>
      have hkey : (m.keep base).1 = m.name.text := by cases m <;> rfl
      show (((m.keep base).1, (m.keep base).2)
        :: rest.map (WrapperMember.keep base)).lookup name = _
      rw [List.lookup_cons, hkey]
      by_cases hname : m.name.text = name
      · rw [List.find?_cons, decide_eq_true hname, hname, beq_self_eq_true]
        rfl
      · rw [List.find?_cons, decide_eq_false hname, beq_eq_false_iff_ne.mpr (Ne.symm hname)]
        exact ih

/-- **A wrapper answers as what it wraps.**  If the parameters of each method have different
    names, a call of a wrapped implementor is answered by the implementor itself: by what a
    property was when it was wrapped, and by the method with the same arguments.  What is no
    member of the wrapper is refused. -/
theorem implementor_wrap
    (h : ∀ s args, .method s args ∈ w.members → (args.map fun arg => arg.1.text).Nodup)
    (base : Implementor) (method : String) (values : List Value) :
    w.implementor (w.wrap base) method values
      = ((w.members.find? fun m => m.name.text = method).map (WrapperMember.reply base values)).getD
        .refused := by
  unfold implementor
  cases hfound : w.members.find? fun m => m.name.text = method with
  | none => rfl
  | some m =>
      have hname : m.name.text = method := by simpa using List.find?_some hfound
      have hkept : (w.wrap base).lookup m.name.text = some (m.keep base).2 := by
        rw [lookup_wrap, hname, hfound]
        rfl
      cases m with
      | property s ty =>
          have hkept : (w.wrap base).lookup s.name.text
              = some (.copied (base s.name.text [])) := hkept
          show WrapperMember.answer _ _ (.property s ty) = _
          rw [WrapperMember.answer, hkept]
          rfl
      | method s args =>
          have hnames := h s args (List.mem_of_find?_eq_some hfound)
          have hkept : (w.wrap base).lookup s.name.text
              = some (.closure fun values =>
                base s.name.text (WrapperMember.passedOn args values)) := hkept
          show WrapperMember.answer _ _ (.method s args) = _
          rw [WrapperMember.answer, hkept]
          -- the arguments are passed on twice, to the closure and by it
          show base s.name.text
            (WrapperMember.passedOn args (WrapperMember.passedOn args values)) = _
          rw [WrapperMember.passedOn_eq_take hnames, WrapperMember.passedOn_eq_take hnames,
            List.take_take, Nat.min_self]
          rfl

/-- So wrapping what is wrapped already changes no answer. -/
theorem implementor_wrap_wrap
    (h : ∀ s args, .method s args ∈ w.members → (args.map fun arg => arg.1.text).Nodup)
    (base : Implementor) :
    w.implementor (w.wrap (w.implementor (w.wrap base))) = w.implementor (w.wrap base) := by
  funext method values
  rw [implementor_wrap h, implementor_wrap h]
  cases hfound : w.members.find? fun m => m.name.text = method with
  | none => rfl
  | some m =>
      have hname : m.name.text = method := by simpa using List.find?_some hfound
      have hinner : ∀ values, w.implementor (w.wrap base) m.name.text values
          = m.reply base values := by
        intro values
        rw [implementor_wrap h, hname, hfound]
        rfl
      -- the inner wrapper has the same members, so it answers for the same one
      cases m with
      | property s ty => exact hinner []
      | method s args =>
          refine (hinner (values.take args.length)).trans ?_
          show base s.name.text ((values.take args.length).take args.length) = _
          rw [List.take_take, Nat.min_self]
          rfl

/-- A property that is kept is what it was when the implementor was wrapped. -/
theorem property_wrap {name : String} {s : Signature} {ty : Ty}
    (h : (w.members.find? fun m => m.name.text = name) = some (.property s ty))
    (base : Implementor) : (w.wrap base).property name = base name [] := by
  have hname : (WrapperMember.property s ty).name.text = name := by simpa using List.find?_some h
  have hkept : (w.wrap base).lookup name = some (.copied (base s.name.text [])) := by
    rw [lookup_wrap, h]
    rfl
  rw [Wrapped.property, hkept, ← hname]
  rfl

end Wrapper

end DeclMacros
