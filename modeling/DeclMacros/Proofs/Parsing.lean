import DeclMacros.Proofs.Safety

/-! # What a parser gives on an input

    A parser is a function from an input to a result and what is left of the input.  So
    to say what it gives is to follow its steps: this file has a rule for two steps in
    a row, for repeated steps, for groups, for whole inputs, and for the arguments of an
    attribute, which are one group with nothing after it. -/

set_option autoImplicit false

namespace DeclMacros

/-- What a reader sees inside of a group that stands first. -/
def Input.within (i : Input) (content : List Token) : Input :=
  { tokens := content
    scope := match i.tokens with
      | t :: _ => t.closeSpan
      | [] => i.scope
    leftover := i.leftover }

namespace Parser

variable {α β : Type} {p : Parser α} {f : α → Parser β} {i j : Input}

/-! ## Steps -/

/-- After a step that succeeds the next one goes on from there. -/
theorem bind_of_ok {a : α} (h : p i = .ok (a, j)) : (p >>= f) i = f a j := by
  show (p i >>= fun r => f r.1 r.2) = _
  rw [h]
  rfl

/-- A step that fails is the last one. -/
theorem bind_of_error {e : Failure} (h : p i = .error e) : (p >>= f) i = .error e := by
  show (p i >>= fun r => f r.1 r.2) = _
  rw [h]
  rfl

/-- Two steps succeed exactly if the first does and the second does after it. -/
theorem bind_eq_ok_iff {r : β × Input} :
    (p >>= f) i = .ok r ↔ ∃ a j, p i = .ok (a, j) ∧ f a j = .ok r := by
  cases h : p i with
  | error e =>
      rw [bind_of_error h]
      refine iff_of_false ?_ ?_
      · rintro ⟨⟩
      · rintro ⟨a, j, ⟨⟩, -⟩
  | ok found =>
      obtain ⟨a, j⟩ := found
      rw [bind_of_ok h]
      constructor
      · intro hnext
        exact ⟨a, j, rfl, hnext⟩
      · rintro ⟨a, j, ⟨⟩, hnext⟩
        exact hnext

/-- A whole input is read exactly if nothing is left over, in it or in its groups. -/
theorem run_eq_ok_iff {ts : Tokens} {a : α} :
    run p ts = .ok a ↔ ∃ rest, p { tokens := ts } = .ok (a, rest) ∧ rest.leftover = none
      ∧ leftoverSpan rest.tokens = none := by
  unfold run
  cases p { tokens := ts } with
  | error e => simp
  | ok found =>
      obtain ⟨b, rest⟩ := found
      cases hleft : rest.leftover with
      | some span => simp [hleft]
      | none =>
          cases hspan : leftoverSpan rest.tokens with
          | some span => simp [hleft, hspan]
          | none => simp [hleft, hspan]

/-! ## Repeated steps -/

section Repetition

variable {step : α → Parser (Option α)} {fuel : Nat} {a b : α}

/-- A step that gives nothing is the last one. -/
theorem iterateWithin_of_none (h : step a i = .ok (none, j)) :
    iterateWithin step (fuel + 1) a i = .ok (a, j) := bind_of_ok h

/-- After a step that gives a value the next one goes on with it. -/
theorem iterateWithin_of_some {next : α} (h : step a i = .ok (some next, j)) :
    iterateWithin step (fuel + 1) a i = iterateWithin step fuel next j := bind_of_ok h

/-- Steps succeed exactly if the first one does, and gives nothing, or gives a value with
    which the others do. -/
theorem iterateWithin_eq_ok_iff :
    iterateWithin step (fuel + 1) a i = .ok (b, j)
      ↔ (step a i = .ok (none, j) ∧ b = a)
        ∨ ∃ next i', step a i = .ok (some next, i')
          ∧ iterateWithin step fuel next i' = .ok (b, j) := by
  cases h : step a i with
  | error e =>
      rw [show iterateWithin step (fuel + 1) a i = .error e from bind_of_error h]
      refine iff_of_false ?_ ?_
      · rintro ⟨⟩
      · rintro (⟨⟨⟩, -⟩ | ⟨next, i', ⟨⟩, -⟩)
  | ok found =>
      obtain ⟨next?, i'⟩ := found
      cases next? with
      | none =>
          rw [iterateWithin_of_none h]
          constructor
          · rintro ⟨⟩
            exact .inl ⟨rfl, rfl⟩
          · rintro (⟨⟨⟩, rfl⟩ | ⟨next, i', ⟨⟩, -⟩)
            rfl
      | some next =>
          rw [iterateWithin_of_some h]
          constructor
          · intro hnext
            exact .inr ⟨next, i', rfl, hnext⟩
          · rintro (⟨⟨⟩, -⟩ | ⟨next, i', ⟨⟩, hnext⟩)
            exact hnext

/-- The steps that are allowed are enough for one on each token. -/
theorem length_le_sizes (ts : Tokens) : ts.length ≤ Token.sizes ts := by
  induction ts with
  | nil => exact Nat.zero_le _
  | cons t ts ih =>
      have hsize : 1 ≤ t.size := by
        cases t <;> simp [Token.size]
      rw [List.length_cons, Token.sizes]
      omega

/-- A sequence of one value, with no separator after it. -/
theorem separated_of_single {done more : List Token → Bool} {item : Parser α}
    {separator : Parser Tokens} (hdone : done i.tokens = false) (h : item i = .ok (a, j))
    (hmore : more j.tokens = false) :
    separated done more item separator i = .ok ([(a, [])], j) := by
  unfold separated separatedWithin
  rw [bind_of_ok (show peek done i = .ok (done i.tokens, i) from rfl), hdone,
    if_neg Bool.false_ne_true, bind_of_ok h,
    bind_of_ok (show peek more j = .ok (more j.tokens, j) from rfl), hmore]
  rfl

end Repetition

/-! ## Groups -/

theorem group?_eq_some_iff {d : Delimiter} {ts content rest : List Token} {span : Span} :
    Front.group? d ts = some (content, span, rest)
      ↔ Token.exposedFront ts = .group d content span :: rest := by
  unfold Front.group?
  split
  · next d' content' span' rest' h =>
      rw [h]
      by_cases hd : d' = d
      · simp [hd, and_assoc]
      · simp [hd]
  · next h =>
      refine iff_of_false ?_ ?_
      · rintro ⟨⟩
      · intro hgroup
        exact h _ _ _ _ hgroup

/-- Inside of a group the parser for its content reads; it is told the closing delimiter
    as its end. -/
theorem inside_eq (content rest : List Token) :
    inside i content rest p = (p (i.within content)).map fun r =>
      ((r.1, leftoverSpan r.2.tokens), { i with tokens := rest, leftover := r.2.leftover }) := by
  unfold inside
  dsimp only
  split
  · next a inner hok => rw [show p (i.within content) = .ok (a, inner) from hok]; rfl
  · next e herror => rw [show p (i.within content) = .error e from herror]; rfl

/-- A group that stands here is read by the parser for its content, and what that leaves
    over is remembered. -/
theorem delimited_of_group {d : Delimiter} (hd : d ≠ .invisible) {content rest : List Token}
    {span : Span} (h : Front.group? d i.tokens = some (content, span, rest)) :
    delimited d p i = (p (i.within content)).map fun r => ((r.1, span),
      { i with tokens := rest, leftover := r.2.leftover <|> leftoverSpan r.2.tokens }) := by
  have hentered : entered d p i = inside i content rest (do return (← p, span)) := by
    rw [entered_eq, enter?_of_visible hd, h]
    rfl
  rw [inside_eq] at hentered
  cases hresult : p (i.within content) with
  | error e =>
      rw [bind_of_error hresult] at hentered
      exact bind_of_error hentered
  | ok found =>
      rw [bind_of_ok hresult] at hentered
      exact bind_of_ok hentered

/-! ## Arguments of attributes -/

/-- One group of this kind, with nothing after it.  It is passed over once before it is
    read. -/
def onlyGroup (d : Delimiter) (p : Parser α) : Parser α := do
  let before ← get
  let _ ← delimited d remaining
  if !(← atEnd) then fail .argumentsMalformed
  set before
  return (← delimited d p).1

/-- The arguments of an attribute are one group with visible delimiters. -/
theorem attrArguments_eq (a : Attribute) (p : Parser α) :
    attrArguments a p = run (do
      if ← atEnd then
        failAt ((Tokens.span a.pound).join a.brackets) (.argumentsMissing a.display)
      else if ← peekOp "=" then fail (.argumentsNotParenthesised a.display)
      else if ← peekGroup .parenthesis then onlyGroup .parenthesis p
      else if ← peekGroup .bracket then onlyGroup .bracket p
      else if ← peekGroup .brace then onlyGroup .brace p
      else fail .argumentsMalformed) a.arguments := rfl

/-- A group with nothing after it is read by the parser for its content. -/
theorem onlyGroup_eq_ok_iff {d : Delimiter} (hd : d ≠ .invisible) {x : α} :
    onlyGroup d p i = .ok (x, j) ↔ ∃ content span rest,
      Token.exposedFront i.tokens = [.group d content span]
        ∧ p (i.within content) = .ok (x, rest)
        ∧ j = { i with tokens := [], leftover := rest.leftover <|> leftoverSpan rest.tokens } := by
  unfold onlyGroup
  rw [bind_of_ok (show (get : Parser Input) i = .ok (i, i) from rfl)]
  cases hgroup : Front.group? d i.tokens with
  | none =>
      have hnone : entered d remaining i = failPhrase (groupName d) i := by
        rw [entered_eq, enter?_of_visible hd, hgroup]
        rfl
      have hfails : ∃ e, delimited d remaining i = .error e := ⟨_, bind_of_error hnone⟩
      obtain ⟨e, hfails⟩ := hfails
      rw [bind_of_error hfails]
      refine iff_of_false ?_ ?_
      · rintro ⟨⟩
      · rintro ⟨content, span, rest, hfront, -⟩
        rw [group?_eq_some_iff.mpr hfront] at hgroup
        cases hgroup
  | some found =>
      obtain ⟨content, span, after⟩ := found
      have hfront := group?_eq_some_iff.mp hgroup
      rw [bind_of_ok (delimited_of_group hd hgroup),
        bind_of_ok (show atEnd _ = .ok (after.isEmpty, _) from rfl), hfront]
      cases after with
      | cons t after =>
          refine iff_of_false ?_ ?_
          · rintro ⟨⟩
          · rintro ⟨content', span', rest, ⟨⟩, -⟩
      | nil =>
          -- the group is all there is, so the input is read again from before it
          show (set i >>= fun _ => delimited d p >>= fun r => pure r.1) _ = _ ↔ _
          rw [bind_of_ok (show (set i : Parser Unit) _ = .ok ((), i) from rfl), bind_eq_ok_iff,
            delimited_of_group hd hgroup]
          cases hresult : p (i.within content) with
          | error e =>
              refine iff_of_false ?_ ?_
              · rintro ⟨found, j', ⟨⟩, -⟩
              · rintro ⟨content', span', rest, ⟨⟩, hread, -⟩
                rw [hresult] at hread
                cases hread
          | ok found =>
              constructor
              · rintro ⟨_, _, ⟨⟩, ⟨⟩⟩
                exact ⟨content, span, found.2, rfl, hresult, rfl⟩
              · rintro ⟨content', span', rest, ⟨⟩, hread, rfl⟩
                rw [hresult] at hread
                cases hread
                exact ⟨_, _, rfl, rfl⟩

/-- The arguments of an attribute are read exactly if they are one visible group and
    nothing is left over of its content. -/
theorem attrArguments_eq_ok_iff {a : Attribute} {x : α} :
    attrArguments a p = .ok x ↔ ∃ d content span rest, d ≠ .invisible
      ∧ Token.exposedFront a.arguments = [.group d content span]
      ∧ p (Input.within { tokens := a.arguments } content) = .ok (x, rest)
      ∧ rest.leftover = none ∧ leftoverSpan rest.tokens = none := by
  have hpeek (d : Delimiter) : peekGroup d { tokens := a.arguments }
      = .ok (Front.group d a.arguments, { tokens := a.arguments }) := rfl
  rw [attrArguments_eq, run_eq_ok_iff]
  simp only [bind_of_ok (show atEnd { tokens := a.arguments }
    = .ok (a.arguments.isEmpty, { tokens := a.arguments }) from rfl)]
  constructor
  · rintro ⟨rest, hbody, hleft, -⟩
    have hgroup : ∃ d, d ≠ .invisible
        ∧ onlyGroup d p { tokens := a.arguments } = .ok (x, rest) := by
      split at hbody
      · cases hbody
      rw [bind_of_ok (show peekOp "=" _ = .ok (Front.op "=" a.arguments, _) from rfl)] at hbody
      split at hbody
      · cases hbody
      rw [bind_of_ok (hpeek _)] at hbody
      split at hbody
      · exact ⟨_, by decide, hbody⟩
      rw [bind_of_ok (hpeek _)] at hbody
      split at hbody
      · exact ⟨_, by decide, hbody⟩
      rw [bind_of_ok (hpeek _)] at hbody
      split at hbody
      · exact ⟨_, by decide, hbody⟩
      · cases hbody
    obtain ⟨d, hd, hgroup⟩ := hgroup
    obtain ⟨content, span, inner, hfront, hread, rfl⟩ := (onlyGroup_eq_ok_iff hd).mp hgroup
    obtain ⟨hinner, hspan⟩ : inner.leftover = none ∧ leftoverSpan inner.tokens = none := by
      simpa using hleft
    exact ⟨d, content, span, inner, hd, hfront, hread, hinner, hspan⟩
  · rintro ⟨d, content, span, inner, hd, hfront, hread, hinner, hspan⟩
    have hempty : a.arguments.isEmpty = false := by
      cases harguments : a.arguments with
      | nil => rw [harguments] at hfront; cases hfront
      | cons => rfl
    have hop : Front.op "=" a.arguments = false := by
      show (Option.isSome (Front.operator? ['='] a.arguments)) = false
      rw [Front.operator?, Front.punct?, hfront]
      rfl
    have hgroup (d' : Delimiter) : Front.group d' a.arguments = decide (d = d') := by
      rw [Front.group, Front.group?, hfront]
      by_cases heq : d = d'
      · simp [heq]
      · simp [heq]
    have hread' := (onlyGroup_eq_ok_iff (i := { tokens := a.arguments }) hd).mpr
      ⟨content, span, inner, hfront, hread, rfl⟩
    refine ⟨{ tokens := [], leftover := inner.leftover <|> leftoverSpan inner.tokens }, ?_,
      by simp [hinner, hspan], rfl⟩
    rw [hempty, if_neg Bool.false_ne_true,
      bind_of_ok (show peekOp "=" _ = .ok (Front.op "=" a.arguments, _) from rfl), hop,
      if_neg Bool.false_ne_true, bind_of_ok (hpeek _), hgroup]
    cases d with
    | invisible => exact absurd rfl hd
    | parenthesis => exact hread'
    | bracket =>
        rw [if_neg (by decide), bind_of_ok (hpeek _), hgroup]
        exact hread'
    | brace =>
        rw [if_neg (by decide), bind_of_ok (hpeek _), hgroup, if_neg (by decide),
          bind_of_ok (hpeek _), hgroup]
        exact hread'

end Parser

end DeclMacros
