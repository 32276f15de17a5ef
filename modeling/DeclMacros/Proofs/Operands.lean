import DeclMacros.Grammar
import DeclMacros.Proofs.Parsing

/-! # Expressions of one token

    An operand is extended as long as something after it can: a call, a field, an
    operator, a longer path.  Neither a comma nor the end of the input is any of these,
    so in a list an expression of one token ends where its token does.

    The route: after a comma or at the end the loops for trailers and for operators stop
    at once (`trailers_of_endsValue`, `operators_of_endsValue`).  What is left is to see
    which rule reads the token: for a text it is the first one, and for a name all rules
    before that for paths ask for a keyword (`atom_of_name`). -/

set_option autoImplicit false

namespace DeclMacros

open DeclMacros.Parser

/-- A value ends here: a comma follows, or nothing. -/
def Tokens.EndsValue (rest : Tokens) : Prop :=
  rest = [] ∨ ∃ spacing place more, rest = .punct ',' spacing place :: more

/-! ## Names -/

section Names

variable {i : Ident} {rest : Tokens} (h : Front.isName i = true)

include h

/-- A name is no keyword. -/
theorem Ident.is_eq_false_of_isName {text : String} (htext : text ∈ Front.reserved) :
    i.is text = false := by
  cases his : i.is text with
  | false => rfl
  | true =>
      rw [Front.isName, beq_iff_eq.mp his, List.contains_iff_mem.mpr htext] at h
      cases h

theorem Parser.peekKw_of_isName {text : String} (htext : text ∈ Front.reserved) :
    peekKw text { tokens := .ident i :: rest } = .ok (false, { tokens := .ident i :: rest }) := by
  rw [← Ident.is_eq_false_of_isName h htext]
  rfl

theorem Parser.name_of_isName (rest : Tokens) :
    name { tokens := .ident i :: rest } = .ok (i, { tokens := rest }) := by
  show (if Front.isName i then _ else _) = _
  rw [if_pos h]
  rfl

end Names

namespace Phrases

variable {P : Phrases} {rest : Tokens} (hrest : rest.EndsValue)

/-! ## What cannot follow -/

include hrest in
/-- No operator follows. -/
theorem operators_of_endsValue (e : Expr) :
    P.anyOperators true e .any { tokens := rest } = .ok (e, { tokens := rest }) := by
  obtain rfl | ⟨spacing, place, more, rfl⟩ := hrest
  · rfl
  · rfl

include hrest in
/-- No call, field, index or question mark follows. -/
theorem trailers_of_endsValue (e : Expr) :
    iterate P.trailer e { tokens := rest } = .ok (e, { tokens := rest }) := by
  obtain ⟨ts, form⟩ := e
  obtain rfl | ⟨spacing, place, more, rfl⟩ := hrest
  · cases form <;> rfl
  · cases form <;> rfl

include hrest in
/-- An operand with nothing after it is read as its atom is. -/
theorem trailed_of_atom {i start : Input} {e : Expr} (hform : e.form ≠ .verbatim)
    (h : P.atom true i = .ok (e, { tokens := rest })) :
    P.trailed start [] true i = .ok (e, { tokens := rest }) := by
  unfold trailed
  rw [bind_of_ok h, bind_of_ok (trailers_of_endsValue hrest e)]
  obtain ⟨ts, form⟩ := e
  cases form with
  | verbatim => exact absurd rfl hform
  | operation onVerbatim => cases onVerbatim <;> rfl
  | _ => rfl

/-! ## Texts -/

theorem atom_of_text {literal word : String} {place : Span}
    (h : Literal.ofText literal = .text word) :
    P.atom true { tokens := .literal literal place :: rest }
      = .ok (⟨[.literal literal place], .text word⟩, { tokens := rest }) := by
  have hfront : litFront? (.literal literal place :: rest) = .ok (some
      ({ kind := .text word, tokens := [.literal literal place], span := place }, rest)) := by
    unfold litFront?
    rw [show Front.literal? (.literal literal place :: rest) = some (literal, place, rest) from rfl]
    dsimp only
    rw [h]
  have hpeek : peekLit { tokens := .literal literal place :: rest }
      = .ok (true, { tokens := .literal literal place :: rest }) := by
    unfold peekLit
    rw [hfront]
    rfl
  have hlit : lit { tokens := .literal literal place :: rest }
      = .ok ({ kind := .text word, tokens := [.literal literal place], span := place },
        { tokens := rest }) := by
    unfold lit
    rw [hfront]
  have hexpr : literalExpr { tokens := .literal literal place :: rest }
      = .ok (⟨[.literal literal place], .text word⟩, { tokens := rest }) := bind_of_ok hlit
  unfold atom
  rw [bind_of_ok (show peek Front.substituted _ = .ok (false, _) from rfl)]
  exact (bind_of_ok hpeek).trans hexpr

include hrest in
/-- **A text is read as an expression up to a comma or the end.** -/
theorem expr_of_text {depth : Nat} {literal word : String} {place : Span}
    (h : Literal.ofText literal = .text word) :
    (phrases (depth + 1)).expr true { tokens := .literal literal place :: rest }
      = .ok (⟨[.literal literal place], .text word⟩, { tokens := rest }) := by
  have hoperand : (phrases depth).anyOperand true { tokens := .literal literal place :: rest }
      = .ok (⟨[.literal literal place], .text word⟩, { tokens := rest }) :=
    trailed_of_atom hrest (by rintro ⟨⟩) (atom_of_text h)
  exact (bind_of_ok hoperand).trans (operators_of_endsValue hrest _)

/-! ## Names as expressions -/

variable {i : Ident} (h : Front.isName i = true)

include hrest h

theorem path_of_name :
    P.path true { tokens := .ident i :: rest }
      = .ok (.mk [] [(.mk i .none, [])], { tokens := rest }) := by
  have hsegment : P.segment true { tokens := .ident i :: rest }
      = .ok (.mk i .none, { tokens := rest }) := by
    unfold segment
    rw [bind_of_ok (peekKw_of_isName h (by decide)), bind_of_ok (peekKw_of_isName h (by decide)),
      bind_of_ok (peekKw_of_isName h (by decide)), if_neg (by decide),
      bind_of_ok (peekKw_of_isName h (by decide))]
    refine (bind_of_ok (name_of_isName h rest)).trans ?_
    obtain rfl | ⟨spacing, place, more, rfl⟩ := hrest
    · rfl
    · rfl
  have hcontinues : Front.continuesPath rest = false := by
    obtain rfl | ⟨spacing, place, more, rfl⟩ := hrest
    · rfl
    · rfl
  unfold path
  rw [bind_of_ok (show optOp "::" _ = .ok ([], _) from rfl),
    bind_of_ok (separated_of_single rfl hsegment hcontinues)]
  rfl

theorem pathExpr_of_name :
    P.pathExpr true { tokens := .ident i :: rest }
      = .ok (⟨[.ident i], .path (some i)⟩, { tokens := rest }) := by
  have hpath : P.qualifiedPath true { tokens := .ident i :: rest }
      = .ok (.path (.mk [] [(.mk i .none, [])]), { tokens := rest }) := by
    unfold qualifiedPath
    rw [bind_of_ok (show peekOp "<" _ = .ok (false, _) from rfl), if_neg Bool.false_ne_true,
      bind_of_ok (path_of_name hrest h)]
    rfl
  unfold pathExpr
  rw [bind_of_ok (show (get : Parser Input) _ = .ok (_, _) from rfl), bind_of_ok hpath]
  obtain rfl | ⟨spacing, place, more, rfl⟩ := hrest
  · rfl
  · rfl

/-- The words that start a block or a closure are no names, or need more after them than
    a comma. -/
theorem starts_no_block_of_name :
    Front.asyncBlock (.ident i :: rest) = false ∧ Front.tryBlock (.ident i :: rest) = false
      ∧ Front.closure (.ident i :: rest) = false
      ∧ Front.closureLifetimes (.ident i :: rest) = false := by
  have hstatic : i.is "static" = false := Ident.is_eq_false_of_isName h (by decide)
  have hmove : i.is "move" = false := Ident.is_eq_false_of_isName h (by decide)
  have hfor : i.is "for" = false := Ident.is_eq_false_of_isName h (by decide)
  have hbar : (i.is "async" && Front.second (fun rest => Front.op "|" rest || Front.kw "move" rest)
      (.ident i :: rest)) = false := by
    obtain rfl | ⟨spacing, place, more, rfl⟩ := hrest
    · exact Bool.and_false _
    · exact Bool.and_false _
  refine ⟨?_, ?_, ?_, ?_⟩
  · obtain rfl | ⟨spacing, place, more, rfl⟩ := hrest
    · exact Bool.and_false _
    · exact Bool.and_false _
  · obtain rfl | ⟨spacing, place, more, rfl⟩ := hrest
    · exact Bool.and_false _
    · exact Bool.and_false _
  · show (false || (i.is "async" && _) || i.is "static" || i.is "move") = false
    rw [hbar, hstatic, hmove]
    rfl
  · show (i.is "for" && _ && _) = false
    rw [hfor]
    rfl

theorem atom_of_name :
    P.atom true { tokens := .ident i :: rest }
      = .ok (⟨[.ident i], .path (some i)⟩, { tokens := rest }) := by
  have hpeek (test : List Token → Bool) : peek test { tokens := .ident i :: rest }
      = .ok (test (.ident i :: rest), { tokens := .ident i :: rest }) := rfl
  have hlit : peekLit { tokens := .ident i :: rest }
      = .ok (false, { tokens := .ident i :: rest }) := by
    have hfront : litFront? (.ident i :: rest) = .ok none := by
      show (if i.is "true" || i.is "false" then _ else _) = _
      rw [Ident.is_eq_false_of_isName h (by decide), Ident.is_eq_false_of_isName h (by decide)]
      rfl
    unfold peekLit
    rw [hfront]
    rfl
  have hname : Front.typeName (.ident i :: rest) = true := by
    show (Front.isName i || _ || _ || _) = true
    rw [h]
    rfl
  obtain ⟨hasync, htry, hclosure, hlifetimes⟩ := starts_no_block_of_name hrest h
  -- no rule before that for paths applies
  unfold atom
  rw [bind_of_ok (hpeek _), show Front.substituted (.ident i :: rest) = false from rfl,
    if_neg Bool.false_ne_true, bind_of_ok hlit, if_neg Bool.false_ne_true,
    bind_of_ok (hpeek _), hasync, if_neg Bool.false_ne_true,
    bind_of_ok (hpeek _), htry, if_neg Bool.false_ne_true,
    bind_of_ok (hpeek _), hclosure, if_neg Bool.false_ne_true,
    bind_of_ok (hpeek _), hlifetimes, if_neg Bool.false_ne_true,
    bind_of_ok (hpeek _), hname, if_pos rfl]
  exact pathExpr_of_name hrest h

/-- **A name is read as an expression up to a comma or the end.** -/
theorem expr_of_name {depth : Nat} :
    (phrases (depth + 1)).expr true { tokens := .ident i :: rest }
      = .ok (⟨[.ident i], .path (some i)⟩, { tokens := rest }) := by
  have hoperand : (phrases depth).anyOperand true { tokens := .ident i :: rest }
      = .ok (⟨[.ident i], .path (some i)⟩, { tokens := rest }) := by
    unfold anyOperand
    rw [bind_of_ok (show (get : Parser Input) _ = .ok (_, _) from rfl),
      bind_of_ok (show exprAttrs _ = .ok ([], _) from rfl),
      bind_of_ok (show peekOp "&" _ = .ok (false, _) from rfl), if_neg Bool.false_ne_true,
      bind_of_ok (peekKw_of_isName h (by decide)), if_neg Bool.false_ne_true]
    exact trailed_of_atom hrest (by rintro ⟨⟩) (atom_of_name hrest h)
  exact (bind_of_ok hoperand).trans (operators_of_endsValue hrest _)

end Phrases

end DeclMacros
