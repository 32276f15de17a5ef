import DeclMacros.Grammar.Stmt
import DeclMacros.Proofs.Lexing
import DeclMacros.Proofs.SafeTypes

/-! # Patterns, expressions and statements are read safely

    As for types, most readers are safe because their parts are.  What needs a reason of
    its own is a chain of positions such as `x.0.1`: its tail is a single number, which is
    split at the dots and lexed again part by part.  A number has nothing in it that
    delimits (`undelimited_of_float`), so its parts have not (`mem_of_mem_betweenDots`),
    and what is lexed from such a part can be read (`safe_partIndex`). -/

set_option autoImplicit false

namespace DeclMacros

open Token (openedAll)

namespace Parser

variable {L : Source}

/-! ## Positions -/

instance safe_index : Safe L index := by
  unfold index
  refine (gives_attempt? safe_lit).bind ?_
  rintro (_ | ⟨⟨kind, isBool, negative, tokens, span⟩, rest⟩) ho
  · infer_instance
  · have hrest : rest.Inside L := (ho _ rest rfl).2
    cases kind <;> infer_instance

instance safe_peekInteger : Safe L peekInteger := by
  unfold peekInteger
  refine .step ?_
  rintro (_ | ⟨⟨kind, isBool, negative, tokens, span⟩, rest⟩)
  · infer_instance
  · cases kind <;> infer_instance

instance safe_member : Safe L member := by unfold member; infer_instance

instance safe_rangeLimits : Safe L rangeLimits := by
  constructor
  intro i hi
  unfold rangeLimits
  split
  · next hfound => exact ⟨hi.step (Front.suffix_operator? hfound) i.leftover, trivial⟩
  · split
    · exact (safe_op "..=").ends i hi
    · exact (safe_op "..").ends i hi

/-- A part of a number is read on its own without a crash. -/
theorem safe_partIndex {part : String} (span : Span)
    (hpart : ∀ c ∈ part.toList, Lexeme.isDelimiting c = false) : Safe L (partIndex part span) := by
  unfold partIndex
  cases hlex : Tokens.lex? part with
  | none => infer_instance
  | some tokens =>
      have hrun := run_ne_crash (Tokens.isReadable_of_lex? hpart hlex) safe_index
      dsimp only
      split
      · infer_instance
      · infer_instance
      · next c hcrash => exact absurd hcrash (hrun c)

/-- A part of a number between its dots is made of characters of the number. -/
theorem mem_of_mem_betweenDots {cs part : List Char} (h : part ∈ betweenDots cs) :
    ∀ c ∈ part, c ∈ cs := by
  induction cs generalizing part with
  | nil =>
      rw [List.mem_singleton.mp h]
      exact List.forall_mem_nil _
  | cons d cs ih =>
      rw [betweenDots] at h
      split at h
      · rcases List.mem_cons.mp h with rfl | h
        · exact List.forall_mem_nil _
        · exact fun c hc => List.mem_cons_of_mem d (ih h c hc)
      · split at h
        · rw [List.mem_singleton.mp h]
          exact fun c hc => List.mem_singleton.mp hc ▸ List.mem_cons_self ..
        · next first rest heq =>
            rw [heq] at ih
            rcases List.mem_cons.mp h with rfl | h
            · refine List.forall_mem_cons.mpr ⟨List.mem_cons_self .., fun c hc => ?_⟩
              exact List.mem_cons_of_mem d (ih (List.mem_cons_self ..) c hc)
            · exact fun c hc => List.mem_cons_of_mem d (ih (List.mem_cons_of_mem _ h) c hc)

/-- So a number is taken apart without a crash. -/
theorem safe_positions (dot : Token) {text : String} (span : Span)
    (htext : ∀ c ∈ text.toList, Lexeme.isDelimiting c = false) :
    Safe L (positions dot text span) := by
  unfold positions
  have hparts : Safe L (((betweenDots text.toList).filter fun p => !p.isEmpty).mapM fun part => do
      return Token.literal (toString (← partIndex (String.ofList part) span)) .callSite) := by
    refine safe_mapM fun part hpart => ?_
    have hpart := mem_of_mem_betweenDots (List.mem_filter.mp hpart).1
    have hindex : Safe L (partIndex (String.ofList part) span) := by
      refine safe_partIndex span fun c hc => htext c (hpart c ?_)
      rwa [String.toList_ofList] at hc
    infer_instance
  dsimp only
  infer_instance

instance safe_exprAttr? : Safe L exprAttr? := by unfold exprAttr?; infer_instance

instance safe_exprAttrs : Safe L exprAttrs := by unfold exprAttrs; infer_instance

instance safe_checkCast : Safe L checkCast := by
  unfold checkCast
  exact .test (.test inferInstance inferInstance) inferInstance

end Parser

namespace Phrases

open DeclMacros.Parser

variable {P : Phrases} [hP : P.IsSafe] {L : Source}

/-! ## Patterns -/

instance safe_constBlock : Safe L P.constBlock := by unfold constBlock; infer_instance

instance safe_patternBound : Safe L P.patternBound := by
  unfold patternBound
  exact .test inferInstance (.step fun minus => .test inferInstance inferInstance)

instance safe_rangePattern (start : Input) (low : Tokens) : Safe L (P.rangePattern start low) := by
  unfold rangePattern; infer_instance

instance safe_alternatives (leading : Bool) : Safe L (P.alternatives leading) := by
  unfold alternatives
  extract_lets rest
  have hrest (bar : Tokens) : Safe L (rest bar) := by
    unfold rest
    exact .step fun first => inferInstance
  clear_value rest
  infer_instance

instance safe_patternList : Safe L P.patternList := by unfold patternList; infer_instance

instance safe_fieldPattern (attrs : Tokens) : Safe L (P.fieldPattern attrs) := by
  unfold fieldPattern; infer_instance

theorem safe_structPattern_go (fuel : Nat) (before : Separated Pattern) :
    Safe L (structPattern.go P fuel before) := by
  induction fuel generalizing before with
  | zero => exact gives_fail _
  | succ fuel ih =>
      rw [structPattern.go]
      exact .step fun ended => inferInstance

instance safe_structPattern : Safe L P.structPattern :=
  ⟨fun i hi => (safe_structPattern_go _ []).ends i hi⟩

instance safe_pathPattern : Safe L P.pathPattern := by
  unfold pathPattern
  refine Gives.get_bind fun start _ => .step fun path => ?_
  split
  refine .step fun _ => .test inferInstance (.test inferInstance (.test inferInstance ?_))
  infer_instance

instance safe_literalPattern : Safe L P.literalPattern := by
  unfold literalPattern
  refine Gives.get_bind fun start _ => .step ?_
  rintro (_ | ⟨tokens, form⟩)
  · infer_instance
  · cases form <;> infer_instance

instance safe_bindingPattern : Safe L P.bindingPattern := by unfold bindingPattern; infer_instance

instance safe_openPattern : Safe L P.openPattern := by unfold openPattern; infer_instance

instance safe_anyPattern : Safe L P.anyPattern := by
  unfold anyPattern
  refine .test inferInstance (.test inferInstance (.test inferInstance (.test inferInstance ?_)))
  refine .step fun _ => .test inferInstance ?_
  refine .step fun _ => .step fun _ => .step fun _ => .test inferInstance ?_
  refine .test inferInstance (.test inferInstance (.test inferInstance ?_))
  infer_instance

/-! ## Expressions -/

instance safe_exprList : Safe L P.exprList := by unfold exprList; infer_instance

instance safe_rightOperand (allowStruct : Bool) (binds : Precedence → Bool) :
    Safe L (P.rightOperand allowStruct binds) := by
  unfold rightOperand; infer_instance

instance safe_rangeAfter (allowStruct : Bool) (low : Tokens) :
    Safe L (P.rangeAfter allowStruct low) := by
  unfold rangeAfter; infer_instance

instance safe_rangeFrom (allowStruct : Bool) : Safe L (P.rangeFrom allowStruct) := by
  unfold rangeFrom; infer_instance

instance safe_operatorStep (allowStruct : Bool) (base : Precedence) (left : Expr) :
    Safe L (P.operatorStep allowStruct base left) := by
  unfold operatorStep
  refine Gives.get_bind fun s _ => ?_
  dsimp only
  generalize (Front.binary? s.tokens).filter _ = found
  rcases found with _ | ⟨symbol, precedence⟩ <;> infer_instance

instance safe_anyOperators (allowStruct : Bool) (left : Expr) (base : Precedence) :
    Safe L (P.anyOperators allowStruct left base) := by
  unfold anyOperators; infer_instance

instance safe_optLabel : Safe L optLabel := by unfold optLabel; infer_instance

instance safe_anyConditional : Safe L P.anyConditional := by
  unfold anyConditional
  refine .step fun keyword => .step fun condition => .step fun body => ?_
  exact .test (.step fun other => .test inferInstance inferInstance) inferInstance

instance safe_whileLoop : Safe L P.whileLoop := by unfold whileLoop; infer_instance

instance safe_forLoop : Safe L P.forLoop := by unfold forLoop; infer_instance

instance safe_endlessLoop : Safe L P.endlessLoop := by unfold endlessLoop; infer_instance

instance safe_turbofish : Safe L P.turbofish := by
  unfold turbofish
  refine .step fun colons => .step fun less => ?_
  extract_lets argument
  have hargument : Safe L argument := by
    unfold argument
    infer_instance
  clear_value argument
  infer_instance

instance safe_memberAccess (e : Tokens) : Safe L (P.memberAccess e) := by
  unfold memberAccess
  refine .step fun found => .step fun _ => ?_
  extract_lets rest
  have hrest (fish : Tokens) : Safe L (rest fish) := by
    unfold rest
    infer_instance
  clear_value rest
  infer_instance

/-- Only what starts with a digit is a float. -/
theorem isDigit_of_float {text : String} (h : Literal.ofText text = .float) :
    text.toList.head?.any Lexeme.isDigit = true := by
  unfold Literal.ofText at h
  dsimp only at h
  generalize text.toList = cs at h
  split at h
  case h_7 c tail _ _ _ _ _ _ =>
    split at h
    · next hdigit => exact hdigit
    · cases h
  all_goals cases h

theorem undelimited_of_float {text : String} (hread : Literal.isReadable text = true)
    (h : Literal.ofText text = .float) : ∀ c ∈ text.toList, Lexeme.isDelimiting c = false := by
  have hlexed := (Bool.and_eq_true_iff.mp hread).1
  rw [Literal.isLexed, isDigit_of_float h] at hlexed
  simpa using hlexed

/-- The text of a float that is read has nothing in it that delimits. -/
theorem gives_peekFloat : Gives L (fun o => ∀ text span rest, o = some (text, span, rest) →
    (∀ c ∈ text.toList, Lexeme.isDelimiting c = false) ∧ rest.Inside L) peekFloat := by
  unfold peekFloat
  refine (gives_attempt? gives_lit).bind fun o ho => ?_
  split
  · next text sp span rest =>
      obtain ⟨hread, hrest⟩ := ho _ rest rfl
      obtain ⟨hreadable, hkind⟩ := hread text _ (List.mem_singleton.mpr rfl)
      refine Gives.pure ?_
      rintro _ _ _ ⟨⟩
      exact ⟨undelimited_of_float hreadable hkind, hrest⟩
  · next c spacing sp text sp' span rest =>
      obtain ⟨hread, hrest⟩ := ho _ rest rfl
      have hmem : Token.literal text sp' ∈ [.punct c spacing sp, .literal text sp'] := by simp
      obtain ⟨hreadable, hkind⟩ := hread text _ hmem
      refine Gives.pure ?_
      rintro _ _ _ ⟨⟩
      refine ⟨?_, hrest⟩
      -- the sign in front delimits nothing either
      rw [String.toList_append]
      exact List.forall_mem_cons.mpr ⟨rfl, undelimited_of_float hreadable hkind⟩
  · exact Gives.pure (by rintro _ _ _ ⟨⟩)

instance safe_afterDot (e dot : Tokens) : Safe L (P.afterDot e dot) := by
  unfold afterDot
  refine .step fun _ => .ite (fun _ => inferInstance) fun _ => gives_peekFloat.bind ?_
  rintro (_ | ⟨text, span, rest⟩) hfloat
  · infer_instance
  · -- the number is taken apart into positions, part by part
    obtain ⟨htext, hrest⟩ := hfloat text span rest rfl
    have hpositions (dot : Token) : Safe L (positions dot text span) :=
      safe_positions dot span htext
    infer_instance

instance safe_trailer (e : Expr) : Safe L (P.trailer e) := by
  unfold trailer
  exact .test inferInstance (.test inferInstance (.test inferInstance inferInstance))

instance safe_closureParam : Safe L P.closureParam := by
  unfold closureParam
  refine .step fun attrs => .step fun pattern => .step fun _ => ?_
  refine .ite (fun _ => inferInstance) fun _ => ?_
  cases pattern.form <;> infer_instance

instance safe_closure (allowStruct : Bool) : Safe L (P.closure allowStruct) := by
  unfold closure; infer_instance

instance safe_fieldValue : Safe L P.fieldValue := by unfold fieldValue; infer_instance

instance safe_structFields : Safe L P.structFields := by unfold structFields; infer_instance

instance safe_pathExpr (allowStruct : Bool) : Safe L (P.pathExpr allowStruct) := by
  unfold pathExpr
  refine Gives.get_bind fun start _ => .step fun path => ?_
  cases path <;> infer_instance

instance safe_arrayContent : Safe L P.arrayContent := by
  unfold arrayContent
  refine .test inferInstance (.step fun first => .step fun _ => ?_)
  exact .test inferInstance inferInstance

instance safe_arrayExpr : Safe L P.arrayExpr := by unfold arrayExpr; infer_instance

instance safe_letExpr : Safe L P.letExpr := by unfold letExpr; infer_instance

instance safe_breakExpr (allowStruct : Bool) : Safe L (P.breakExpr allowStruct) := by
  unfold breakExpr; infer_instance

instance safe_valueAfter (keyword : String) (allowStruct : Bool) :
    Safe L (P.valueAfter keyword allowStruct) := by
  unfold valueAfter; infer_instance

instance safe_literalExpr : Safe L literalExpr := by
  unfold literalExpr
  refine .step fun found => ?_
  cases found.kind <;> infer_instance

instance safe_labelled : Safe L P.labelled := by
  unfold labelled
  refine .step fun label => .step fun _ => ?_
  extract_lets printed
  have hprinted (body : Expr) : Safe L (printed body) := by
    unfold printed
    infer_instance
  clear_value printed
  exact .ite (fun _ => inferInstance) fun _ => .test inferInstance inferInstance

instance safe_keywordBlock (keyword : String) (attributed : Bool) :
    Safe L (P.keywordBlock keyword attributed) := by
  unfold keywordBlock; infer_instance

instance safe_earlyBlock? : Safe L P.earlyBlock? := by
  unfold earlyBlock?
  refine .test inferInstance (.test inferInstance (.step fun _ => .test inferInstance ?_))
  refine .test inferInstance (.test inferInstance (.test inferInstance ?_))
  infer_instance

instance safe_early : Safe L P.early := by unfold early; infer_instance

instance safe_matchArm : Safe L P.matchArm := by
  unfold matchArm
  refine .step fun attrs => .step fun pattern => .step fun _ => ?_
  extract_lets rest
  have hrest (guard : Tokens) : Safe L (rest guard) := by
    unfold rest
    infer_instance
  clear_value rest
  infer_instance

instance safe_anySelection : Safe L P.anySelection := by unfold anySelection; infer_instance

instance safe_parenExpr : Safe L P.parenExpr := by unfold parenExpr; infer_instance

instance safe_atom (allowStruct : Bool) : Safe L (P.atom allowStruct) := by
  unfold atom
  refine .test inferInstance (.test inferInstance (.test inferInstance (.test inferInstance ?_)))
  refine .test inferInstance (.test inferInstance (.test inferInstance (.test inferInstance ?_)))
  refine .test inferInstance (.test inferInstance (.test inferInstance (.test inferInstance ?_)))
  refine .test inferInstance (.test inferInstance (.test inferInstance (.test inferInstance ?_)))
  refine .test inferInstance (.test inferInstance (.test inferInstance (.test inferInstance ?_)))
  exact .test inferInstance (.test inferInstance inferInstance)

instance safe_trailed (start : Input) (attrs : List Attribute) (allowStruct : Bool) :
    Safe L (P.trailed start attrs allowStruct) := by
  unfold trailed
  refine .step fun first => .step fun e => ?_
  cases e.form <;> infer_instance

instance safe_referenceExpr (start : Input) (attrs : Tokens) (allowStruct : Bool) :
    Safe L (P.referenceExpr start attrs allowStruct) := by
  unfold referenceExpr
  refine .step fun ampersand => .step fun _ => .test ?_ inferInstance
  exact .step fun _ => .step fun mutability => inferInstance

instance safe_anyOperand (allowStruct : Bool) : Safe L (P.anyOperand allowStruct) := by
  unfold anyOperand
  refine Gives.get_bind fun start _ => .step fun attrs => .step fun _ => ?_
  refine .ite (fun _ => inferInstance) fun _ => .step fun _ => ?_
  refine .ite (fun _ => inferInstance) fun _ => Gives.get_bind fun s _ => ?_
  dsimp only
  cases ["*", "!", "-"].find? (Front.op · s.tokens) <;> infer_instance

instance safe_anyExpr (allowStruct : Bool) : Safe L (P.anyExpr allowStruct) := by
  unfold anyExpr; infer_instance

/-! ## Fields and signatures -/

instance safe_namedField : Safe L P.namedField := by unfold namedField; infer_instance

instance safe_tupleField : Safe L P.tupleField := by unfold tupleField; infer_instance

instance safe_namedFields : Safe L P.namedFields := by unfold namedFields; infer_instance

instance safe_tupleFields : Safe L P.tupleFields := by unfold tupleFields; infer_instance

instance safe_receiver (attrs : List Attribute) : Safe L (receiver attrs) := by
  unfold receiver; infer_instance

instance safe_typedParam (attrs : List Attribute) : Safe L (P.typedParam attrs) := by
  unfold typedParam; infer_instance

instance safe_fnArg : Safe L P.fnArg := by unfold fnArg; infer_instance

theorem safe_fnArgs_go (fuel : Nat) (seen first : Bool) :
    Safe L (fnArgs.go P fuel seen first) := by
  induction fuel generalizing seen first with
  | zero => exact gives_fail _
  | succ fuel ih =>
      rw [fnArgs.go]
      refine .step fun _ => .ite (fun _ => inferInstance) fun _ => .step fun arg => ?_
      cases arg <;> infer_instance

instance safe_fnArgs : Safe L P.fnArgs :=
  ⟨fun i hi => (safe_fnArgs_go _ false true).ends i hi⟩

instance safe_signature : Safe L P.signature := by unfold signature; infer_instance

instance safe_fnBody : Safe L P.fnBody := by unfold fnBody; infer_instance

/-! ## Statements -/

instance safe_macroStatement (path : PlainPath) : Safe L (macroStatement path) := by
  unfold macroStatement; infer_instance

instance safe_localStatement (start : Input) (attrs : Tokens) :
    Safe L (P.localStatement start attrs) := by
  unfold localStatement
  refine .step fun keyword => .step fun pattern => .step fun _ => ?_
  extract_lets rest
  have hrest (ascribed : Tokens) : Safe L (rest ascribed) := by
    unfold rest
    exact .test (.step fun equals => .step fun value => .test inferInstance inferInstance)
      inferInstance
  clear_value rest
  infer_instance

instance safe_exprStatement (attrs : List Attribute) : Safe L (P.exprStatement attrs) := by
  unfold exprStatement; infer_instance

theorem gives_statementMacro? : Gives L
    (fun o => ∀ path rest, o = some (path, rest) → rest.Inside L) statementMacro? := by
  unfold statementMacro?
  refine (gives_attempt? safe_plainPath).bind ?_
  rintro (_ | ⟨path, rest⟩) ho
  · exact Gives.pure (by rintro _ _ ⟨⟩)
  · refine Gives.pure fun path' rest' heq => ?_
    split at heq
    · cases heq
      exact (ho path rest rfl).2
    · cases heq

instance safe_statement : Safe L P.statement := by
  unfold statement
  refine Gives.get_bind fun start _ => .step fun attrs => gives_statementMacro?.bind ?_
  rintro (_ | ⟨path, rest⟩) hmacro
  · refine .step fun _ => .ite (fun _ => inferInstance) fun _ => .step fun _ => ?_
    refine .ite (fun _ => .step fun item => ?_) fun _ => inferInstance
    cases item <;> infer_instance
  · have hrest : rest.Inside L := hmacro path rest rfl
    infer_instance

instance safe_anyStatements : Safe L P.anyStatements := by unfold anyStatements; infer_instance

end Phrases

end DeclMacros
