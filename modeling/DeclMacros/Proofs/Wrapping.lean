import Mathlib.Data.List.Pairwise
import DeclMacros.Proofs.Reading
import DeclMacros.Sample.Declaration

/-! # Wrappers are made whole or not at all

    A wrapper implements a trait in place of the value that it holds, so it has
    to define what the trait leaves open, and it should not let a default of the
    trait answer for the value.  Each member of the trait goes through a chain of
    tests of its own, and ends as a member of the wrapper, as a report, or as
    neither.

    The route: what one member can come to is said once (`wrapperMember_cases`),
    and so is what an expansion can come to (`Wrapper.expand_cases`).  Where
    nothing is reported, the members of the wrapper stand one by one for the
    members of the trait that are not left to a default
    (`forall₂_forwarded_members`).  The code of a wrapper is printed from parts
    (`Wrapper.tokens_eq_code`), and each part has one entry for each member: that
    gives the main theorem, that a wrapper is complete.

    One kind of method slips through: a property with a body whose receiver is
    written as a typed parameter counts as static, and the wrapper leaves it to
    the trait.  The second theorem says that no other method does. -/

set_option autoImplicit false

namespace DeclMacros

/-- Keeping what passes a test, in another form, is one filter and one map. -/
theorem filterMap_eq_map_filter {α β : Type} {f : α → Option β} {p : α → Bool} {g : α → β}
    (h : ∀ x, f x = if p x then some (g x) else none) (xs : List α) :
    xs.filterMap f = (xs.filter p).map g := by
  rw [← List.filterMap_eq_map', List.filterMap_filter]
  congr 1
  funext x
  exact h x

/-! ## The code of a wrapper, in parts -/

/-- A field of a generated structure. -/
structure FieldDecl where
  vis : Tokens
  name : Ident
  ty : Tokens

/-- The tokens of a field. -/
def FieldDecl.tokens (f : FieldDecl) : Tokens := f.vis ++ typedName f.name f.ty

/-- A statement that binds a name; `rest` is what follows the name. -/
structure LetStatement where
  name : Ident
  rest : Tokens

/-- The tokens of a binding. -/
def LetStatement.tokens (l : LetStatement) : Tokens := .word "let" :: .ident l.name :: l.rest

/-- A method of a generated implementation. -/
structure MethodDef where
  signature : Signature
  body : Tokens

/-- The tokens of a method. -/
def MethodDef.tokens (d : MethodDef) : Tokens := d.signature.tokens ++ [.braces d.body]

/-- What the code of a wrapper is printed from: the fields of the structure, the
    statements of `new` that copy a property out and those that capture the
    value, the names that `new` stores, and the methods of the implementation of
    the trait. -/
structure WrapperCode where
  fields : List FieldDecl
  copies : List LetStatement
  captures : List LetStatement
  stored : List Ident
  methods : List MethodDef

namespace WrapperCode

/-- The body of `new`.  The value is shared only if a closure captures it. -/
def newBody (c : WrapperCode) : Tokens :=
  let share := if c.captures.isEmpty then []
    else [.word "let", WrapperMember.base] ++ Tokens.op "=" ++ WrapperMember.arc ["new"]
      ++ [.parens [WrapperMember.base]] ++ Tokens.op ";"
  c.copies.flatMap LetStatement.tokens ++ share ++ c.captures.flatMap LetStatement.tokens
    ++ [.word "Self", .braces (Tokens.commaTerminated (c.stored.map fun name => [.ident name]))]

/-- The structure, its function `new` and the implementation of the trait. -/
def tokens (w : Wrapper) (c : WrapperCode) : Tokens :=
  Tokens.attr [.word "derive", .parens [.word "Clone"]]
    ++ w.vis ++ [.word "struct", .ident w.name,
      .braces (Tokens.commaTerminated (c.fields.map FieldDecl.tokens))]
    ++ [.word "impl", .ident w.name,
      .braces (Function.tokens { w.newFunction with body := c.newBody })]
    ++ w.unsafety ++ [.word "impl", .ident w.traitName, .word "for", .ident w.name,
      .braces (c.methods.flatMap MethodDef.tokens)]

end WrapperCode

namespace WrapperMember

/-- The field that holds the member. -/
def fieldDecl (vis : Tokens) : WrapperMember → FieldDecl
  | .property s ty => ⟨vis, s.name, ty.tokens⟩
  | .method s args => ⟨[], s.name, closureType s args⟩

/-- The statement that binds the member: what follows the name is the same
    statement without its first two tokens. -/
def letStatement (traitName : Ident) : WrapperMember → LetStatement
  | .property s _ => ⟨s.name, (copy traitName s).drop 2⟩
  | .method s args => ⟨s.name, (capture traitName s args).drop 2⟩

/-- A body that hands out the copy of a property. -/
def copyBody (name : Ident) : Tokens :=
  Tokens.core ["clone", "Clone", "clone"] ++ [.parens (Tokens.op "&" ++ Tokens.selfField name)]

/-- A body that calls a stored closure, and waits for it if it is asynchronous. -/
def callBody (s : Signature) (args : List (Ident × Ty)) : Tokens :=
  [.parens (Tokens.selfField s.name),
    .parens (Tokens.commaSeparated (args.map fun (name, _) => [.ident name]))]
    ++ if s.isAsync then Tokens.op "." ++ [.word "await"] else []

/-- The method that answers for the member. -/
def methodDef : WrapperMember → MethodDef
  | .property s _ => ⟨s, copyBody s.name⟩
  | .method s args => ⟨forwardSignature s args, callBody s args⟩

theorem field_eq (vis : Tokens) (m : WrapperMember) : m.field vis = (m.fieldDecl vis).tokens := by
  cases m <;> rfl

theorem forward_eq (m : WrapperMember) : m.forward = m.methodDef.tokens := by
  cases m <;> rfl

@[simp] theorem fieldDecl_name (vis : Tokens) (m : WrapperMember) :
    (m.fieldDecl vis).name = m.name := by
  cases m <;> rfl

@[simp] theorem letStatement_name (traitName : Ident) (m : WrapperMember) :
    (m.letStatement traitName).name = m.name := by
  cases m <;> rfl

@[simp] theorem methodDef_name (m : WrapperMember) : m.methodDef.signature.name = m.name := by
  cases m <;> rfl

end WrapperMember

namespace Wrapper

/-- The parts of a wrapper's code. -/
def code (w : Wrapper) : WrapperCode where
  fields := w.members.map (WrapperMember.fieldDecl w.vis)
  copies := (w.members.filter WrapperMember.isProperty).map (·.letStatement w.traitName)
  captures := (w.members.filter fun m => !m.isProperty).map (·.letStatement w.traitName)
  stored := w.members.map WrapperMember.name
  methods := w.members.map WrapperMember.methodDef

theorem copies_eq_code (w : Wrapper) : w.copies = w.code.copies.map LetStatement.tokens := by
  rw [copies, code, List.map_map]
  refine filterMap_eq_map_filter ?_ w.members
  intro m
  cases m <;> rfl

theorem captures_eq_code (w : Wrapper) : w.captures = w.code.captures.map LetStatement.tokens := by
  rw [captures, code, List.map_map]
  refine filterMap_eq_map_filter ?_ w.members
  intro m
  cases m <;> rfl

/-- The code of a wrapper is printed from its parts. -/
theorem tokens_eq_code (w : Wrapper) : w.tokens = w.code.tokens w := by
  have hfields : w.members.map (WrapperMember.field w.vis)
      = w.code.fields.map FieldDecl.tokens := by
    rw [code, List.map_map]
    exact List.map_congr_left fun m _ => m.field_eq w.vis
  have hmethods : w.members.flatMap WrapperMember.forward
      = w.code.methods.flatMap MethodDef.tokens := by
    rw [code, List.flatMap_map]
    congr 1
    funext m
    exact m.forward_eq
  have hbody : w.newFunction.body = w.code.newBody := by
    simp only [newFunction, WrapperCode.newBody, copies_eq_code, captures_eq_code,
      List.isEmpty_map, ← List.flatMap_def]
    rw [code, List.map_map]
    rfl
  have hnew : w.newFunction = { w.newFunction with body := w.code.newBody } := by
    rw [← hbody]
  rw [tokens, WrapperCode.tokens, hfields, hmethods, ← hnew]

/-- What `new` binds is what the wrapper has as members, the properties first. -/
theorem bindings_perm (w : Wrapper) :
    ((w.code.copies ++ w.code.captures).map LetStatement.name).Perm
      (w.members.map WrapperMember.name) := by
  have hnames : (w.code.copies ++ w.code.captures).map LetStatement.name
      = (w.members.filter WrapperMember.isProperty
          ++ w.members.filter fun m => !m.isProperty).map WrapperMember.name := by
    simp [code, Function.comp_def]
  rw [hnames]
  exact (List.filter_append_perm WrapperMember.isProperty w.members).map WrapperMember.name

end Wrapper

/-! ## What a member of a trait can come to -/

/-- The trait itself says what the member is if nobody else does.  An associated
    type, a macro call and a form kept as it was read count as having no
    default. -/
def TraitItem.hasDefault : TraitItem → Bool
  | .method m => m.hasDefault
  | .const _ _ hasValue _ => hasValue
  | _ => false

/-- The name that a member of a trait declares, if it is known. -/
def TraitItem.name? : TraitItem → Option Ident
  | .method m => some m.signature.name
  | .const _ name _ _ => some name
  | .type _ name _ => some name
  | _ => none

/-- The member is an associated type. -/
def TraitItem.isType : TraitItem → Bool
  | .type .. => true
  | _ => false

/-- The method is seen to take the value itself.  Of a property only an untyped
    receiver is seen. -/
def TraitMethod.seesReceiver (m : TraitMethod) : Bool :=
  if m.isProperty then m.hasReceiver else m.takesSelf

/-- The method is a property with a body, and its receiver is not seen. -/
def TraitMethod.isLeftToDefault (m : TraitMethod) : Bool :=
  m.isProperty && !m.hasReceiver && m.hasDefault

/-- The member is not left to a default: it has none, or it is seen to take the
    value itself. -/
def TraitItem.isForwarded (item : TraitItem) : Bool :=
  !item.hasDefault || match item with
    | .method m => m.seesReceiver
    | _ => false

/-- A member of a wrapper stands for a member of its trait: a marked method is
    copied, any other is called with its arguments. -/
inductive TraitItem.ForwardedAs : TraitItem → WrapperMember → Prop where
  | property (m : TraitMethod) (ty : Ty) :
      m.isProperty = true → ForwardedAs (.method m) (.property m.signature ty)
  | method (m : TraitMethod) :
      m.isProperty = false →
      ForwardedAs (.method m) (.method m.signature (TraitMethod.arguments m.signature))

namespace TraitMethod

/-- A receiver that is borrowed is a receiver. -/
theorem hasReceiver_of_borrowsSelf {m : TraitMethod} (h : m.borrowsSelf = true) :
    m.hasReceiver = true := by
  unfold borrowsSelf at h
  unfold hasReceiver
  cases hfirst : m.firstInput? with
  | none => rw [hfirst] at h; exact nomatch h
  | some input =>
      cases input with
      | receiver => rfl
      | typed => rw [hfirst] at h; exact nomatch h

/-- A property is left out, is reported as an error, or is copied. -/
theorem propertyMember_cases (m : TraitMethod) :
    (m.propertyMember = .ok none ∧ m.hasReceiver = false ∧ m.hasDefault = true) ∨
    (∃ d, m.propertyMember = .error d ∧ d.problem.severity = .error) ∨
    (∃ ty, m.propertyMember = .ok (some (.property m.signature ty)) ∧ m.hasReceiver = true) := by
  unfold propertyMember
  by_cases hstatic : (!m.hasReceiver && m.hasDefault) = true
  · rw [if_pos hstatic]
    rw [Bool.and_eq_true, Bool.not_eq_true'] at hstatic
    exact .inl ⟨rfl, hstatic⟩
  · rw [if_neg hstatic]
    right
    by_cases hgetter : m.isGetter = true
    · have hborrows : m.borrowsSelf = true := by
        simp only [isGetter, Bool.and_eq_true] at hgetter
        exact hgetter.1.1.1.1
      rw [if_neg (by simp [hgetter])]
      cases m.property.ty with
      | none => exact .inl ⟨_, rfl, rfl⟩
      | some ty =>
          simp only
          by_cases hself : ty.mentionsSelf = true
          · rw [if_pos hself]
            exact .inl ⟨_, rfl, rfl⟩
          · rw [if_neg hself]
            by_cases hshape : (ty.isReference || ty.isImplTrait) = true
            · rw [if_pos hshape]
              exact .inl ⟨_, rfl, rfl⟩
            · rw [if_neg hshape]
              exact .inr ⟨ty, rfl, hasReceiver_of_borrowsSelf hborrows⟩
    · rw [if_pos (by simp [hgetter])]
      exact .inl ⟨_, rfl, rfl⟩

/-- Any other method is left out, is reported as an error, or is called. -/
theorem methodMember_cases (m : TraitMethod) :
    (m.methodMember = .ok none ∧ m.takesSelf = false ∧ m.hasDefault = true) ∨
    (∃ d, m.methodMember = .error d ∧ d.problem.severity = .error) ∨
    (m.methodMember = .ok (some (.method m.signature (arguments m.signature)))
      ∧ m.takesSelf = true) := by
  unfold methodMember
  by_cases htakes : m.takesSelf = true
  · rw [if_neg (by simp [htakes])]
    right
    cases m.obstacle? with
    | some reason => exact .inl ⟨_, rfl, rfl⟩
    | none => exact .inr ⟨rfl, htakes⟩
  · rw [if_pos (by simp [htakes])]
    by_cases hdefault : m.hasDefault = true
    · rw [if_pos hdefault]
      exact .inl ⟨rfl, by simpa using htakes, hdefault⟩
    · rw [if_neg hdefault]
      exact .inr (.inl ⟨_, rfl, rfl⟩)

end TraitMethod

namespace TraitItem

/-- What a member of a trait can come to: an associated type or what is left to a
    default is passed by, some members are reported as errors, and the others are
    methods that the wrapper has a member for. -/
theorem wrapperMember_cases (item : TraitItem) :
    (item.wrapperMember = .ok none ∧ (item.isType = true ∨ item.isForwarded = false)) ∨
    (∃ d, item.wrapperMember = .error d ∧ d.problem.severity = .error ∧ item.isType = false) ∨
    (∃ member, item.wrapperMember = .ok (some member) ∧ item.isForwarded = true
      ∧ item.ForwardedAs member) := by
  cases item with
  | method m =>
      by_cases hmarked : m.isProperty = true
      · have hmember : (TraitItem.method m).wrapperMember = m.propertyMember := if_pos hmarked
        have hsees : m.seesReceiver = m.hasReceiver := if_pos hmarked
        rw [hmember]
        rcases m.propertyMember_cases with ⟨hok, hreceiver, hdefault⟩ | ⟨d, herror, hsev⟩ |
          ⟨ty, hok, hreceiver⟩
        · exact .inl ⟨hok, .inr (by simp [isForwarded, hasDefault, hsees, hreceiver, hdefault])⟩
        · exact .inr (.inl ⟨d, herror, hsev, rfl⟩)
        · exact .inr (.inr ⟨_, hok, by simp [isForwarded, hsees, hreceiver],
            .property m ty hmarked⟩)
      · have hmember : (TraitItem.method m).wrapperMember = m.methodMember := if_neg hmarked
        have hsees : m.seesReceiver = m.takesSelf := if_neg hmarked
        rw [hmember]
        rcases m.methodMember_cases with ⟨hok, htakes, hdefault⟩ | ⟨d, herror, hsev⟩ | ⟨hok, htakes⟩
        · exact .inl ⟨hok, .inr (by simp [isForwarded, hasDefault, hsees, htakes, hdefault])⟩
        · exact .inr (.inl ⟨d, herror, hsev, rfl⟩)
        · exact .inr (.inr ⟨_, hok, by simp [isForwarded, hsees, htakes],
            .method m (by simpa using hmarked)⟩)
  | const attrs name hasValue body =>
      cases hasValue with
      | true => exact .inl ⟨rfl, .inr rfl⟩
      | false => exact .inr (.inl ⟨_, rfl, rfl, rfl⟩)
  | type attrs name body => exact .inl ⟨rfl, .inl rfl⟩
  | macroCall attrs call => exact .inr (.inl ⟨_, rfl, rfl, rfl⟩)
  | verbatim tokens => exact .inr (.inl ⟨_, rfl, rfl, rfl⟩)

/-- The report about a member that is no associated type. -/
def report? (item : TraitItem) : Option Diagnostic :=
  match item.wrapperMember with
  | .ok _ => none
  | .error d => some d

/-- The member of the wrapper for a member of the trait. -/
def member? (item : TraitItem) : Option WrapperMember :=
  match item.wrapperMember with
  | .ok member => member
  | .error _ => none

/-- The report about an associated type. -/
def typeReport (item : TraitItem) : Diagnostic := ⟨.unforwardable .associatedType, item.span⟩

/-- Associated types are reported on their own only. -/
theorem report?_of_isType {item : TraitItem} (h : item.isType = true) : item.report? = none := by
  cases item with
  | type => rfl
  | _ => exact nomatch h

theorem severity_of_report? {item : TraitItem} {d : Diagnostic} (h : item.report? = some d) :
    d.problem.severity = .error := by
  unfold report? at h
  rcases item.wrapperMember_cases with ⟨hok, -⟩ | ⟨d', herror, hsev, -⟩ | ⟨member, hok, -⟩
  · rw [hok] at h; exact nomatch h
  · rw [herror] at h
    rw [← Option.some.inj h]
    exact hsev
  · rw [hok] at h; exact nomatch h

end TraitItem

/-! ## All members of a trait -/

namespace Wrapper

/-- One report for each associated type comes before the reports about the other
    members, of which each has at most one. -/
theorem reportsOf_eq (t : TraitDecl) :
    reportsOf t = (t.items.filter TraitItem.isType).map TraitItem.typeReport
      ++ (t.items.filter fun item => !item.isType).filterMap TraitItem.report? := by
  have htypes : t.items.filterMap TraitItem.typeReport?
      = (t.items.filter TraitItem.isType).map TraitItem.typeReport := by
    refine filterMap_eq_map_filter ?_ t.items
    intro item
    cases item <;> rfl
  have hothers : t.items.filterMap TraitItem.report?
      = (t.items.filter fun item => !item.isType).filterMap TraitItem.report? := by
    rw [List.filterMap_filter]
    congr 1
    funext item
    by_cases htype : item.isType = true
    · simp [htype, TraitItem.report?_of_isType htype]
    · simp [htype]
  rw [← htypes, ← hothers]
  rfl

/-- All reports are errors. -/
theorem severity_of_mem_reportsOf {t : TraitDecl} {d : Diagnostic} (h : d ∈ reportsOf t) :
    d.problem.severity = .error := by
  rw [reportsOf_eq] at h
  rcases List.mem_append.mp h with htype | hother
  · obtain ⟨item, -, rfl⟩ := List.mem_map.mp htype
    rfl
  · obtain ⟨item, -, hreport⟩ := List.mem_filterMap.mp hother
    exact TraitItem.severity_of_report? hreport

/-- Where nothing is reported, no member is an associated type or fails. -/
theorem of_reportsOf_nil {t : TraitDecl} (h : reportsOf t = []) :
    ∀ item ∈ t.items, item.isType = false ∧ item.report? = none := by
  rw [reportsOf_eq, List.append_eq_nil_iff, List.map_eq_nil_iff, List.filter_eq_nil_iff,
    List.filterMap_eq_nil_iff] at h
  intro item hitem
  have htype : item.isType = false := by simpa using h.1 item hitem
  exact ⟨htype, h.2 item (List.mem_filter.mpr ⟨hitem, by simp [htype]⟩)⟩

/-- Where nothing is reported, the members of the wrapper stand one by one, in
    order, for the members of the trait that are not left to a default. -/
theorem forall₂_forwarded_members {t : TraitDecl} (h : reportsOf t = []) :
    List.Forall₂ TraitItem.ForwardedAs (t.items.filter TraitItem.isForwarded) (membersOf t) := by
  have hquiet := of_reportsOf_nil h
  show List.Forall₂ _ _ (t.items.filterMap TraitItem.member?)
  generalize t.items = items at hquiet
  induction items with
  | nil => exact .nil
  | cons item rest ih =>
      have hrest := ih fun other hother => hquiet other (List.mem_cons_of_mem item hother)
      obtain ⟨htype, hreport⟩ := hquiet item (List.mem_cons_self ..)
      rw [List.filterMap_cons, List.filter_cons]
      rcases item.wrapperMember_cases with ⟨hok, hpassed⟩ | ⟨d, herror, -⟩ |
        ⟨member, hok, hforwarded, hstands⟩
      · -- passed by, and no type, so it is left to its default
        have hleft : item.isForwarded = false := by
          rcases hpassed with hisType | hleft
          · rw [htype] at hisType; exact nomatch hisType
          · exact hleft
        rw [TraitItem.member?, hok, hleft]
        exact hrest
      · rw [TraitItem.report?, herror] at hreport
        exact nomatch hreport
      · rw [TraitItem.member?, hok, hforwarded]
        exact .cons hstands hrest

/-- What an expansion for a trait can come to. -/
theorem expand_cases {a : Attachment} {t : TraitDecl} {e : Expansion Wrapper}
    (h : expand a (.trait t) = .ok e) :
    (isGenericTrait t = true ∧ e = .report ⟨.genericTrait, t.name.span⟩) ∨
    (t.methods.any TraitMethod.isProperty = false ∧ e = {}) ∨
    (reportsOf t ≠ [] ∧ e = { diagnostics := reportsOf t }) ∨
    (reportsOf t = [] ∧ e = {}) ∨
    (reportsOf t = [] ∧ ∃ name, t.name.erasedName = .ok name ∧ e = { items := [
      { traitName := t.name, name := name, vis := (Item.trait t).resolveAccess a.access,
        unsafety := t.unsafety, members := membersOf t }] }) := by
  unfold expand at h
  simp only at h
  by_cases hgeneric : isGenericTrait t = true
  · rw [if_pos hgeneric] at h
    exact .inl ⟨hgeneric, (Except.ok.inj h).symm⟩
  · rw [if_neg hgeneric] at h
    right
    by_cases hmarked : t.methods.any TraitMethod.isProperty = true
    · rw [if_neg (by simp [hmarked])] at h
      right
      by_cases hquiet : reportsOf t = []
      · rw [if_neg (by simp [hquiet])] at h
        right
        by_cases hcopied : (membersOf t).any WrapperMember.isProperty = true
        · rw [if_neg (by simp [hcopied])] at h
          cases hname : t.name.erasedName with
          | error c => rw [hname] at h; exact nomatch h
          | ok name =>
              rw [hname] at h
              exact .inr ⟨hquiet, name, rfl, (Except.ok.inj h).symm⟩
        · rw [if_pos (by simp [hcopied])] at h
          exact .inl ⟨hquiet, (Except.ok.inj h).symm⟩
      · rw [if_pos (by simp [hquiet])] at h
        exact .inl ⟨hquiet, (Except.ok.inj h).symm⟩
    · rw [if_pos (by simp [hmarked])] at h
      exact .inl ⟨by simpa using hmarked, (Except.ok.inj h).symm⟩

/-- A wrapper is made from the members of a trait about which nothing is
    reported, and nothing else comes with it. -/
theorem of_mem_expand {a : Attachment} {t : TraitDecl} {e : Expansion Wrapper} {w : Wrapper}
    (h : expand a (.trait t) = .ok e) (hw : w ∈ e.items) :
    e = { items := [w] } ∧ reportsOf t = [] ∧ w.members = membersOf t := by
  rcases expand_cases h with ⟨-, rfl⟩ | ⟨-, rfl⟩ | ⟨-, rfl⟩ | ⟨-, rfl⟩ | ⟨hquiet, name, -, rfl⟩
  · exact nomatch hw
  · exact nomatch hw
  · exact nomatch hw
  · exact nomatch hw
  · obtain rfl := List.mem_singleton.mp hw
    exact ⟨rfl, hquiet, rfl⟩

end Wrapper

/-! ## A wrapper is complete -/

/-- A method defines a member of a trait: it has the member's signature, but for
    the patterns of the inputs. -/
def TraitItem.DefinedBy (item : TraitItem) (d : MethodDef) : Prop :=
  ∃ m : TraitMethod, item = .method m
    ∧ { d.signature with inputs := m.signature.inputs } = m.signature

/-- The code of a wrapper is complete for a trait. -/
structure WrapperCode.Complete (t : TraitDecl) (c : WrapperCode) : Prop where
  /-- The methods of the implementation define members of the trait, in order and
      each once, and nothing else. -/
  defined : List.Forall₂ TraitItem.DefinedBy (t.items.filter TraitItem.isForwarded) c.methods
  /-- Among the members that are defined are all that have no default. -/
  required : ∀ item ∈ t.items, item.hasDefault = false → item.isForwarded = true
  /-- If the members of the trait have different names, so have the methods. -/
  distinct : ((t.items.filterMap TraitItem.name?).map Ident.text).Nodup →
    (c.methods.map fun d => d.signature.name.text).Nodup
  /-- The structure has one field for each method. -/
  fields : c.fields.map FieldDecl.name = c.methods.map fun d => d.signature.name
  /-- Each field is bound once in `new`. -/
  bound : ((c.copies ++ c.captures).map LetStatement.name).Perm (c.fields.map FieldDecl.name)
  /-- Each field is stored once by `new`. -/
  stored : c.stored = c.fields.map FieldDecl.name

namespace TraitItem

theorem ForwardedAs.definedBy {item : TraitItem} {member : WrapperMember}
    (h : item.ForwardedAs member) : item.DefinedBy member.methodDef := by
  cases h with
  | property m ty hmarked => exact ⟨m, rfl, rfl⟩
  | method m hmarked => exact ⟨m, rfl, rfl⟩

theorem ForwardedAs.name {item : TraitItem} {member : WrapperMember}
    (h : item.ForwardedAs member) : item.name? = some member.name := by
  cases h <;> rfl

end TraitItem

/-- The names of a wrapper's members are among those that the trait declares, in
    the same order. -/
theorem Wrapper.sublist_names {t : TraitDecl} (h : reportsOf t = []) :
    ((membersOf t).map WrapperMember.name).Sublist (t.items.filterMap TraitItem.name?) := by
  have hnames : (t.items.filter TraitItem.isForwarded).filterMap TraitItem.name?
      = (membersOf t).filterMap fun member => some member.name :=
    filterMap_congr_of_forall₂ (fun _ _ hstands => hstands.name) (forall₂_forwarded_members h)
  rw [List.filterMap_eq_map'] at hnames
  rw [← hnames]
  exact List.filter_sublist.filterMap TraitItem.name?

/-- The code of a wrapper that is made is complete. -/
theorem Wrapper.code_complete {a : Attachment} {t : TraitDecl} {e : Expansion Wrapper}
    {w : Wrapper} (h : expand a (.trait t) = .ok e) (hw : w ∈ e.items) :
    w.code.Complete t := by
  obtain ⟨-, hquiet, hmembers⟩ := of_mem_expand h hw
  have hfields : w.code.fields.map FieldDecl.name = w.members.map WrapperMember.name := by
    simp [code, Function.comp_def]
  have hmethods : w.code.methods.map (fun d => d.signature.name)
      = w.members.map WrapperMember.name := by
    simp [code, Function.comp_def]
  constructor
  · show List.Forall₂ _ _ (w.members.map WrapperMember.methodDef)
    rw [hmembers, List.forall₂_map_right_iff]
    exact (forall₂_forwarded_members hquiet).imp fun _ _ hstands => hstands.definedBy
  · intro item _ hdefault
    simp [TraitItem.isForwarded, hdefault]
  · intro hnames
    have htexts : w.code.methods.map (fun d => d.signature.name.text)
        = (w.members.map WrapperMember.name).map Ident.text := by
      rw [← hmethods, List.map_map]
      rfl
    rw [htexts, hmembers]
    exact ((sublist_names hquiet).map Ident.text).nodup hnames
  · rw [hfields, hmethods]
  · rw [hfields]
    exact w.bindings_perm
  · rw [hfields]
    rfl

/-- A pet with a function without a receiver, a method with a body, and two
    properties, of which the second writes its receiver as a typed parameter. -/
def Sample.pet : Sample where
  source := "trait Pet \x7b fn kind() \x7b\x7d fn feed(&self, _: u8) \x7b\x7d "
    ++ "#[property] fn name(&self) -> u8; #[property] fn home(self: &Self) -> u8 \x7b 1 \x7d \x7d"

/-- A stray with two associated types and two more members that cannot be
    forwarded. -/
def Sample.stray : Sample where
  source := "trait Stray \x7b fn wild(); type Den; #[property] fn name(&self) -> u8; "
    ++ "const AGE: u8; type Pack; \x7d"

/-- The pet gets a wrapper, with methods for two of its members. -/
theorem Sample.pet_expands :
    ∃ t w, Sample.pet.trait? = some t
      ∧ Wrapper.expand {} (.trait t) = .ok { items := [w] }
      ∧ w.code.methods.map (fun d => d.signature.name.text) = ["feed", "name"]
      ∧ t.methods.map (fun m => (m.signature.name.text, m.takesSelf, m.isLeftToDefault))
        = [("kind", false, false), ("feed", true, false), ("name", true, false),
          ("home", true, true)]
      ∧ ((t.items.filterMap TraitItem.name?).map Ident.text).Nodup := by
  have hcheck : (Sample.pet.trait?.any fun t => (Wrapper.expand {} (.trait t)).toOption.any
      fun e => decide (
        (e.items.map fun w => w.code.methods.map fun d => d.signature.name.text)
          = [["feed", "name"]]
        ∧ t.methods.map (fun m => (m.signature.name.text, m.takesSelf, m.isLeftToDefault))
          = [("kind", false, false), ("feed", true, false), ("name", true, false),
            ("home", true, true)]
        ∧ ((t.items.filterMap TraitItem.name?).map Ident.text).Nodup)) = true := by decide +kernel
  obtain ⟨t, ht, hall⟩ := (Option.any_eq_true _ _).mp hcheck
  obtain ⟨e, he, hall⟩ := (Option.any_eq_true _ _).mp hall
  obtain ⟨hitems, hmethods, hnames⟩ := of_decide_eq_true hall
  obtain ⟨w, hw, hdefined⟩ := List.map_eq_singleton_iff.mp hitems
  have hexpand := eq_ok_of_toOption he
  obtain ⟨rfl, -⟩ := Wrapper.of_mem_expand hexpand (hw ▸ List.mem_singleton_self w)
  exact ⟨t, w, ht, hexpand, hdefined, hmethods, hnames⟩

namespace TraitItem

/-- Among members with different names, a member is known by its name. -/
theorem eq_of_name_eq {items : List TraitItem}
    (h : ((items.filterMap name?).map Ident.text).Nodup) {x y : TraitItem} (hx : x ∈ items)
    (hy : y ∈ items) {i j : Ident} (hi : x.name? = some i) (hj : y.name? = some j)
    (htext : i.text = j.text) : x = y := by
  by_contra hne
  rw [List.Nodup, List.pairwise_map, List.pairwise_filterMap] at h
  have : Std.Symm fun x y : TraitItem =>
      ∀ i, x.name? = some i → ∀ j, y.name? = some j → i.text ≠ j.text := by
    constructor
    intro x y hxy j hj i hi heq
    exact hxy i hi j hj heq.symm
  exact h.forall hx hy hne i hi j hj htext

/-- A method that takes the value itself is forwarded, unless it is a property with
    a body whose receiver is not seen. -/
theorem isForwarded_of_takesSelf {m : TraitMethod} (h : m.takesSelf = true) :
    (TraitItem.method m).isForwarded = !m.isLeftToDefault := by
  unfold isForwarded TraitMethod.isLeftToDefault TraitMethod.seesReceiver
  by_cases hmarked : m.isProperty = true
  · simp [hmarked, hasDefault, Bool.or_comm]
  · simp [hmarked, h]

end TraitItem

/-- **No other method is left to the trait.**  Of the methods of a trait that take
    the value itself, as a receiver or as a parameter named `self`, with or without
    a body, marked or not, a wrapper defines all but the properties with a body
    whose receiver is a typed parameter: a marked one by handing out the copy, any
    other by calling the stored closure.  The exceptions it does not define, so
    that the trait's own body answers for the value. -/
theorem Wrapper.defines_methods_taking_self (a : Attachment) (t : TraitDecl)
    (e : Expansion Wrapper) (w : Wrapper) (h : Wrapper.expand a (.trait t) = .ok e)
    (hw : w ∈ e.items) (m : TraitMethod) (hm : m ∈ t.methods) (htakes : m.takesSelf = true) :
    w.tokens = w.code.tokens w ∧
    (m.isLeftToDefault = false →
      ∃ d ∈ w.code.methods, d.signature.name = m.signature.name
        ∧ d.body = if m.isProperty then WrapperMember.copyBody m.signature.name
          else WrapperMember.callBody m.signature (TraitMethod.arguments m.signature)) ∧
    (m.isLeftToDefault = true → ((t.items.filterMap TraitItem.name?).map Ident.text).Nodup →
      ∀ d ∈ w.code.methods, d.signature.name.text ≠ m.signature.name.text) := by
  obtain ⟨-, hquiet, hmembers⟩ := Wrapper.of_mem_expand h hw
  have hstands := Wrapper.forall₂_forwarded_members hquiet
  have hitem := TraitDecl.mem_items_of_mem_methods hm
  refine ⟨w.tokens_eq_code, ?_, ?_⟩
  · intro hkept
    have hforwarded : TraitItem.method m ∈ t.items.filter TraitItem.isForwarded :=
      List.mem_filter.mpr ⟨hitem, by rw [TraitItem.isForwarded_of_takesSelf htakes, hkept]; rfl⟩
    obtain ⟨member, hmember, has⟩ := exists_mem_of_forall₂ hstands.flip hforwarded
    refine ⟨member.methodDef, List.mem_map_of_mem (hmembers ▸ hmember), ?_⟩
    cases has with
    | property m ty hmarked => exact ⟨rfl, (if_pos hmarked).symm⟩
    | method m hmarked => exact ⟨rfl, (if_neg (by simp [hmarked])).symm⟩
  · intro hleft hnames d hd heq
    obtain ⟨member, hmember, rfl⟩ := List.mem_map.mp hd
    rw [hmembers] at hmember
    obtain ⟨item, hkept, has⟩ := exists_mem_of_forall₂ hstands hmember
    obtain ⟨hmem, hforwarded⟩ := List.mem_filter.mp hkept
    rw [WrapperMember.methodDef_name] at heq
    -- what is defined under the same name is the same member, and that one is left out
    rw [TraitItem.eq_of_name_eq hnames hmem hitem has.name rfl heq,
      TraitItem.isForwarded_of_takesSelf htakes, hleft] at hforwarded
    exact nomatch hforwarded

/-- The pet's wrapper calls the closure for `feed`, and leaves `home` to the
    trait. -/
theorem Sample.pet_defines_methods_taking_self :
    ∃ t w feed home, Sample.pet.trait? = some t
      ∧ Wrapper.expand {} (.trait t) = .ok { items := [w] }
      ∧ feed ∈ t.methods ∧ feed.signature.name.text = "feed" ∧ feed.takesSelf = true
      ∧ home ∈ t.methods ∧ home.signature.name.text = "home" ∧ home.takesSelf = true
      ∧ (∃ d ∈ w.code.methods, d.signature.name = feed.signature.name
        ∧ d.body = if feed.isProperty then WrapperMember.copyBody feed.signature.name
          else WrapperMember.callBody feed.signature (TraitMethod.arguments feed.signature))
      ∧ ∀ d ∈ w.code.methods, d.signature.name.text ≠ home.signature.name.text := by
  obtain ⟨t, w, hitem, hexpand, -, hmethods, hnames⟩ := Sample.pet_expands
  have hmem : ∀ x ∈ [("feed", true, false), ("home", true, true)], ∃ m ∈ t.methods,
      (m.signature.name.text, m.takesSelf, m.isLeftToDefault) = x := by
    intro x hx
    rw [← List.mem_map, hmethods]
    simp only [List.mem_cons, List.not_mem_nil, or_false] at hx ⊢
    rcases hx with rfl | rfl <;> simp
  obtain ⟨feed, hfeed, heq⟩ := hmem ("feed", true, false) (by simp)
  obtain ⟨home, hhome, heq'⟩ := hmem ("home", true, true) (by simp)
  simp only [Prod.mk.injEq] at heq heq'
  obtain ⟨-, hdefined, -⟩ := Wrapper.defines_methods_taking_self {} t _ w hexpand
    (List.mem_singleton_self w) feed hfeed heq.2.1
  obtain ⟨-, -, hundefined⟩ := Wrapper.defines_methods_taking_self {} t _ w hexpand
    (List.mem_singleton_self w) home hhome heq'.2.1
  exact ⟨t, w, feed, home, hitem, hexpand, hfeed, heq.1, heq.2.1, hhome, heq'.1, heq'.2.1,
    hdefined heq.2.2, hundefined heq'.2.2 hnames⟩

/-- Not every method that takes the value itself is defined: the pet's wrapper has
    none under the name of its last method. -/
theorem Sample.pet_home_falls_back_to_trait :
    ∃ t w home, Sample.pet.trait? = some t
      ∧ Wrapper.expand {} (.trait t) = .ok { items := [w] }
      ∧ home ∈ t.methods ∧ home.takesSelf = true ∧ home.hasDefault = true
      ∧ ¬ ∃ d ∈ w.code.methods, d.signature.name.text = home.signature.name.text := by
  obtain ⟨t, w, hitem, hexpand, hdefined, hmethods, -⟩ := Sample.pet_expands
  obtain ⟨home, hhome, heq⟩ : ∃ m ∈ t.methods,
      (m.signature.name.text, m.takesSelf, m.isLeftToDefault) = ("home", true, true) := by
    rw [← List.mem_map, hmethods]
    simp
  simp only [Prod.mk.injEq, TraitMethod.isLeftToDefault, Bool.and_eq_true] at heq
  refine ⟨t, w, home, hitem, hexpand, hhome, heq.2.1, heq.2.2.2, ?_⟩
  rintro ⟨d, hd, hname⟩
  have hlisted : d.signature.name.text ∈ ["feed", "name"] := by
    rw [← hdefined]
    exact List.mem_map_of_mem hd
  rw [hname, heq.1] at hlisted
  exact absurd hlisted (by decide)

end DeclMacros
