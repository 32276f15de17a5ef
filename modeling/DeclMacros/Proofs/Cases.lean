import DeclMacros.Proofs.Activities
import DeclMacros.Proofs.Crashes
import DeclMacros.Proofs.Quoting

/-! # Every value is run once, in order, under its own label

    The arguments of a test are expressions, and which of them are run is settled by
    their forms alone (`Takes`).  The one thing that can go wrong besides is a crash of
    the reader, on the input or on the source text of a value, which is read again to see
    whether it may serve as a label (`exists_error_expand_iff`).

    The route: arguments that are taken give one case for each value, in order, and all
    others one report (`expand_cases`).  The code of the cases is a row of calls from which
    names and values can be read back (`calls_flatMap_iff`), so no call is missing, added
    or repeated; and a row of activities is run up to the first panic. -/

set_option autoImplicit false

namespace DeclMacros

namespace Tokens

/-- Expressions that can be read are read without a crash. -/
theorem readExprs_ne_crash {ts : Tokens} (h : ts.isReadable = true) (c : Crash) :
    ts.readExprs ≠ .error (.crash c) := by
  have hsafe : ts.readAs (fun P => Parser.commaList (P.expr true)) ≠ .error (.crash c) :=
    Parser.run_ne_crash h inferInstance c
  intro hcrash
  rw [readExprs] at hcrash
  cases hread : ts.readAs (fun P => Parser.commaList (P.expr true)) with
  | ok args =>
      rw [hread] at hcrash
      cases hcrash
  | error e =>
      rw [hread] at hcrash hsafe
      exact hsafe (congrArg Except.error (Except.error.inj hcrash))

/-- An expression that can be read is read without a crash. -/
theorem readExpr_ne_crash {ts : Tokens} (h : ts.isReadable = true) (c : Crash) :
    ts.readExpr ≠ .error (.crash c) :=
  Parser.run_ne_crash h inferInstance c

end Tokens

namespace TestRun

variable {source : List Char} {ts : Tokens} {args : List Expr} {values : List Tokens}
  {closure : Expr}

/-! ## Labels -/

/-- To compare a text with a value crashes exactly if the tokens of the text are read with a
    crash. -/
theorem reads_eq_error_iff {text : String} {value : Tokens} {c : Crash} :
    reads text value = .error c
      ↔ ∃ us, Tokens.lex? text = some us ∧ us.readExpr = .error (.crash c) := by
  rw [reads]
  cases hlex : Tokens.lex? text with
  | none => exact iff_of_false (by rintro ⟨⟩) (by rintro ⟨us, ⟨⟩, -⟩)
  | some us =>
      constructor
      · intro h
        refine ⟨us, rfl, ?_⟩
        dsimp only at h
        rcases hread : us.readExpr with (f | d) | e
        · rw [hread] at h; cases h
        · rw [hread] at h; cases h; rfl
        · rw [hread] at h; cases h
      · rintro ⟨vs, hvs, hread⟩
        cases hvs
        dsimp only
        rw [hread]

/-- To make the label of a value crashes exactly if its source text is read with a crash. -/
theorem label_eq_error_iff {value : Tokens} {c : Crash} :
    label source value = .error c ↔ ∃ text us, (Tokens.span value).text? source = some text
      ∧ Tokens.lex? text = some us ∧ us.readExpr = .error (.crash c) := by
  rw [label]
  cases htext : (Tokens.span value).text? source with
  | none => exact iff_of_false (by rintro ⟨⟩) (by rintro ⟨text, us, ⟨⟩, -⟩)
  | some text =>
      constructor
      · intro h
        dsimp only at h
        have hreads : reads text value = .error c := by
          cases hreads : reads text value with
          | ok b => rw [hreads] at h; cases h
          | error d => rw [hreads] at h; cases h; rfl
        obtain ⟨us, hlex, hread⟩ := reads_eq_error_iff.mp hreads
        exact ⟨text, us, rfl, hlex, hread⟩
      · rintro ⟨text', us, htext', hlex, hread⟩
        cases htext'
        dsimp only
        rw [reads_eq_error_iff.mpr ⟨us, hlex, hread⟩]
        rfl

/-! ## Arguments -/

/-- The arguments are those of a test that is run: an array literal with these elements,
    and at least one, and then a closure with one parameter. -/
structure Takes (args : List Expr) (values : List Tokens) (closure : Expr) : Prop where
  array : args.head?.map Expr.form = some (.array values)
  nonempty : values ≠ []
  second : args.tail.head? = some closure
  arity : ∃ parameters, closure.form = .closure parameters ∧ parameters.length = 1

/-- The case of a value, under its label. -/
def caseOf (source : List Char) (value : Tokens) : Except Crash TestCase :=
  (label source value).map fun label => { label := label, value := value }

theorem caseOf_eq_ok_iff {value : Tokens} {c : TestCase} :
    caseOf source value = .ok c ↔ label source value = .ok c.label ∧ c.value = value := by
  obtain ⟨text, tokens⟩ := c
  rw [caseOf]
  cases label source value with
  | error d => exact iff_of_false (by rintro ⟨⟩) (by rintro ⟨⟨⟩, -⟩)
  | ok found =>
      constructor
      · intro h
        cases h
        exact ⟨rfl, rfl⟩
      · rintro ⟨hlabel, hvalue⟩
        cases hlabel
        cases hvalue
        rfl

/-- Arguments of a test that is run: the cases are made from the values in order. -/
theorem ofArguments_of_takes (h : Takes args values closure) :
    ofArguments source args
      = (values.mapM (caseOf source)).map fun cases => { items := [⟨closure, cases⟩] } := by
  obtain ⟨parameters, hform, hone⟩ := h.arity
  cases values with
  | nil => exact absurd rfl h.nonempty
  | cons first rest =>
      rw [ofArguments, h.array, h.second]
      dsimp only
      rw [hform]
      dsimp only
      rw [if_pos hone]
      -- the cases are made by a block, and it is `caseOf` on either outcome of the label
      have hcase : (fun value => do
          return ({ label := ← label source value, value := value } : TestCase))
          = caseOf source := by
        funext value
        rw [caseOf]
        cases label source value <;> rfl
      rw [hcase]
      cases (first :: rest).mapM (caseOf source) <;> rfl

variable (source) in
/-- Any other arguments are reported, once. -/
theorem exists_report_of_not_takes (h : ∀ values closure, ¬Takes args values closure) :
    ∃ d, ofArguments source args = .ok (.report d) := by
  rw [ofArguments]
  -- one report for each thing that can be missing, and where none is, the arguments are taken
  split
  · next first rest harray =>
      split
      · next closure hsecond =>
          split
          · next parameters hform =>
              split
              · next hone =>
                  exact absurd ⟨harray, List.cons_ne_nil _ _, hsecond, parameters, hform, hone⟩
                    (h _ _)
              · exact ⟨_, rfl⟩
          · exact ⟨_, rfl⟩
      · exact ⟨_, rfl⟩
  · exact ⟨_, rfl⟩

/-- The arguments settle which values are run. -/
theorem Takes.eq_values {values' : List Tokens} {closure' : Expr} (h : Takes args values closure)
    (h' : Takes args values' closure') : values' = values :=
  ExprForm.array.inj (Option.some.inj (h'.array.symm.trans h.array))

/-- The closure is settled too. -/
theorem Takes.eq_closure {values' : List Tokens} {closure' : Expr}
    (h : Takes args values closure) (h' : Takes args values' closure') : closure' = closure :=
  Option.some.inj (h'.second.symm.trans h.second)

/-! ## Crashes -/

/-- The source text of the value is read with a crash. -/
def Trips (source : List Char) (value : Tokens) : Prop :=
  ∃ text us c, (Tokens.span value).text? source = some text ∧ Tokens.lex? text = some us
    ∧ us.readExpr = .error (.crash c)

/-- The input is read with a crash; or it is the input of a test that is run, and the source
    text of one of the values is. -/
def Stumbles (source : List Char) (ts : Tokens) : Prop :=
  (∃ c, ts.readExprs = .error (.crash c))
    ∨ ∃ args values closure, ts.readExprs = .ok args ∧ Takes args values closure
      ∧ ∃ value ∈ values, Trips source value

theorem exists_error_caseOf_iff {value : Tokens} :
    (∃ c, caseOf source value = .error c) ↔ Trips source value := by
  rw [caseOf, exists_error_map_iff]
  constructor
  · rintro ⟨c, h⟩
    obtain ⟨text, us, htext, hlex, hread⟩ := label_eq_error_iff.mp h
    exact ⟨text, us, c, htext, hlex, hread⟩
  · rintro ⟨text, us, c, htext, hlex, hread⟩
    exact ⟨c, label_eq_error_iff.mpr ⟨text, us, htext, hlex, hread⟩⟩

theorem exists_error_ofArguments_iff :
    (∃ c, ofArguments source args = .error c)
      ↔ ∃ values closure, Takes args values closure ∧ ∃ value ∈ values, Trips source value := by
  by_cases htakes : ∃ values closure, Takes args values closure
  · obtain ⟨values, closure, htakes⟩ := htakes
    have hcases : (∃ c, values.mapM (caseOf source) = .error c)
        ↔ ∃ value ∈ values, Trips source value := by
      rw [exists_error_iff, exists_mapM_eq_ok_iff]
      simp only [not_forall, ← exists_error_iff, exists_error_caseOf_iff, exists_prop]
    rw [ofArguments_of_takes htakes, exists_error_map_iff, hcases]
    constructor
    · intro h
      exact ⟨values, closure, htakes, h⟩
    · rintro ⟨values', closure', htakes', h⟩
      rw [htakes.eq_values htakes'] at h
      exact h
  · obtain ⟨d, hd⟩ := exists_report_of_not_takes source fun values closure h =>
      htakes ⟨values, closure, h⟩
    rw [hd]
    refine iff_of_false not_exists_error_ok ?_
    rintro ⟨values, closure, h, -⟩
    exact htakes ⟨values, closure, h⟩

/-! ## Expansions -/

theorem expand_of_fault {f : Fault} (h : ts.readExprs = .error (.fault f)) :
    expand source ts = .ok (.report (.ofFault f)) := by
  rw [expand, h]

theorem expand_of_crash {c : Crash} (h : ts.readExprs = .error (.crash c)) :
    expand source ts = .error c := by
  rw [expand, h]

theorem expand_of_args (h : ts.readExprs = .ok args) :
    expand source ts = ofArguments source args := by
  rw [expand, h]

/-- An expansion crashes exactly on an input that stumbles. -/
theorem exists_error_expand_iff : (∃ c, expand source ts = .error c) ↔ Stumbles source ts := by
  rcases hread : ts.readExprs with (f | c) | args
  · rw [expand_of_fault hread, Stumbles, hread]
    refine iff_of_false not_exists_error_ok ?_
    rintro (⟨c, ⟨⟩⟩ | ⟨args, values, closure, ⟨⟩, -⟩)
  · rw [expand_of_crash hread]
    exact iff_of_true ⟨c, rfl⟩ (.inl ⟨c, hread⟩)
  · rw [expand_of_args hread, exists_error_ofArguments_iff]
    constructor
    · rintro ⟨values, closure, htakes, htrips⟩
      exact .inr ⟨args, values, closure, hread, htakes, htrips⟩
    · rintro (⟨c, hcrash⟩ | ⟨args', values, closure, hread', htakes, htrips⟩)
      · rw [hread] at hcrash
        cases hcrash
      · rw [hread] at hread'
        cases hread'
        exact ⟨values, closure, htakes, htrips⟩

/-- Where there are no traps, in the input or in the source texts of its values, nothing
    stumbles. -/
theorem not_stumbles_of_isTrapFree (hlexed : Token.areLexed ts = true)
    (htraps : ts.isTrapFree = true)
    (htexts : ∀ args values closure, ts.readExprs = .ok args → Takes args values closure →
      ∀ value ∈ values, ∀ text us, (Tokens.span value).text? source = some text →
        Tokens.lex? text = some us → us.isTrapFree = true) : ¬Stumbles source ts := by
  rintro (⟨c, hcrash⟩ | ⟨args, values, closure, hread, htakes, value, hvalue, text, us, c,
    htext, hlex, hcrash⟩)
  · exact Tokens.readExprs_ne_crash (Tokens.isReadable_of_isTrapFree hlexed htraps) c hcrash
  · -- the text is lexed anew, so its tokens have the form of tokens whatever the input is
    have hfree := htexts args values closure hread htakes value hvalue text us htext hlex
    have hreadable := Tokens.isReadable_of_isTrapFree (Tokens.areLexed_of_lex? hlex) hfree
    exact Tokens.readExpr_ne_crash hreadable c hcrash

/-- An expansion that does not crash is the run of the values that the input takes, or one
    report where it takes none. -/
theorem expand_cases {e : Expansion TestRun} (h : expand source ts = .ok e) :
    (∃ args values closure cases, ts.readExprs = .ok args ∧ Takes args values closure
        ∧ List.Forall₂ (fun value c => caseOf source value = .ok c) values cases
        ∧ e = { items := [⟨closure, cases⟩] })
      ∨ (∀ args values closure, ts.readExprs = .ok args → ¬Takes args values closure)
        ∧ ∃ d, e = .report d := by
  rcases hread : ts.readExprs with (f | c) | args
  · rw [expand_of_fault hread] at h
    refine .inr ⟨?_, _, (Except.ok.inj h).symm⟩
    rintro args values closure ⟨⟩
  · rw [expand_of_crash hread] at h
    cases h
  · rw [expand_of_args hread] at h
    by_cases htakes : ∃ values closure, Takes args values closure
    · obtain ⟨values, closure, htakes⟩ := htakes
      rw [ofArguments_of_takes htakes] at h
      cases hcases : values.mapM (caseOf source) with
      | error c => rw [hcases] at h; cases h
      | ok cases =>
          rw [hcases] at h
          exact .inl ⟨args, values, closure, cases, rfl, htakes, (mapM_eq_ok_iff _ _ _).mp hcases,
            (Except.ok.inj h).symm⟩
    · have hnone : ∀ values closure, ¬Takes args values closure := by
        intro values closure h
        exact htakes ⟨values, closure, h⟩
      obtain ⟨d, hd⟩ := exists_report_of_not_takes source hnone
      rw [hd] at h
      refine .inr ⟨?_, d, (Except.ok.inj h).symm⟩
      intro args' values closure hargs
      cases hargs
      exact hnone values closure

/-! ## Code -/

/-- The closure is bound, once. -/
def binding (closure : Expr) : Tokens :=
  Tokens.attr [.word "allow", .parens [.word "unused_mut"]]
    ++ [.word "let", .word "mut", performName] ++ Tokens.op "=" ++ closure.tokens ++ Tokens.op ";"

/-- Code that is a row of calls: each runs the bound closure on a value, as an activity that
    a literal names. -/
inductive Calls : Tokens → List (String × Tokens) → Prop where
  | nil : Calls [] []
  | cons {quoted name : String} {value code : Tokens} {calls : List (String × Tokens)}
      (named : Literal.ofText quoted = .text name) (rest : Calls code calls) :
      Calls (Tokens.globalPath ["brewery", "activity", "run_activity"]
        ++ .parens (.ofLiteral quoted :: (Tokens.op "," ++ Tokens.op "||"
          ++ [performName, .parens value])) :: (Tokens.op ";" ++ code)) ((name, value) :: calls)

/-- The code of the cases is a row of calls, and of no other calls than theirs. -/
theorem calls_flatMap_iff (cases : List TestCase) (calls : List (String × Tokens)) :
    Calls (cases.flatMap caseTokens) calls ↔ calls = cases.map fun c => (c.label, c.value) := by
  constructor
  · intro h
    -- the code determines each call: the path and the tokens between the parts are fixed
    generalize hcode : cases.flatMap caseTokens = code at h
    induction h generalizing cases with
    | nil =>
        cases cases with
        | nil => rfl
        | cons c cases => cases hcode
    | @cons quoted name value code calls hname hrest ih =>
        cases cases with
        | nil => cases hcode
        | cons c cases =>
            rw [List.flatMap_cons, caseTokens] at hcode
            simp only [List.append_assoc, List.singleton_append] at hcode
            have hparts := List.append_cancel_left hcode
            injection hparts with hcall htail
            injection hcall with _ hcontent _
            injection hcontent with hquoted hcontent
            injection hquoted with hquoted _
            have hvalue : c.value = value := by
              have hend := List.append_cancel_left (List.append_cancel_left hcontent)
              injection hend with _ hend
              injection hend with hend _
              injection hend
            rw [← hquoted, Literal.ofText_literalQuoted] at hname
            cases hname
            rw [ih cases (List.append_cancel_left htail), ← hvalue]
            rfl
  · rintro rfl
    induction cases with
    | nil => exact .nil
    | cons c cases ih =>
        rw [List.flatMap_cons, caseTokens]
        simp only [List.append_assoc, List.singleton_append]
        exact .cons (Literal.ofText_literalQuoted c.label) ih

/-! ## Runs -/

/-- The test runs each value once, in order, under its own label. -/
structure RunsEach (source : List Char) (values : List Tokens) (closure : Expr) (r : TestRun) :
    Prop where
  /-- The code binds the closure and then calls an activity for each value, named by the
      label; and that is what is performed. -/
  code : ∃ labels code,
    List.Forall₂ (fun value name => label source value = .ok name) values labels
      ∧ r.tokens = [.braces (binding closure ++ code)]
      ∧ (∀ calls, Calls code calls ↔ calls = labels.zip values)
      ∧ ∀ {σ : Type} (run : Tokens → Task σ Unit), r.perform run
        = Task.inOrder ((labels.zip values).map fun call => (run call.2).named call.1)
  /-- Whatever the closure does, all values pass, or those before the first that panics; and
      the panic of that one leaves under its label. -/
  run : ∀ {σ : Type} (run : Tokens → Task σ Unit) (s : σ),
    (∃ t, Passes run values s t ∧ r.perform run s = (t, .ok ()))
      ∨ ∃ before value after name t u p, values = before ++ value :: after
        ∧ label source value = .ok name ∧ Passes run before s t ∧ run value t = (u, .error p)
        ∧ r.perform run s
          = (u, .error (.made ("test case `" ++ name ++ "` failed: " ++ p.message)))

/-- Cases are values and labels, side by side. -/
theorem exists_labels {cases : List TestCase}
    (h : List.Forall₂ (fun value c => caseOf source value = .ok c) values cases) :
    values = cases.map TestCase.value ∧ (∀ c ∈ cases, label source c.value = .ok c.label)
      ∧ ∃ labels, List.Forall₂ (fun value name => label source value = .ok name) values labels
        ∧ labels.zip values = cases.map fun c => (c.label, c.value) := by
  induction h with
  | nil => exact ⟨rfl, List.forall_mem_nil _, [], .nil, rfl⟩
  | @cons value c values cases hcase _ ih =>
      obtain ⟨hvalues, hmem, labels, hlabels, hzip⟩ := ih
      obtain ⟨hlabel, rfl⟩ := caseOf_eq_ok_iff.mp hcase
      refine ⟨congrArg (c.value :: ·) hvalues, List.forall_mem_cons.mpr ⟨hlabel, hmem⟩,
        c.label :: labels, .cons hlabel hlabels, ?_⟩
      rw [List.zip_cons_cons, hzip, List.map_cons]

/-- The cases made from the values are a test that runs each of them. -/
theorem runsEach_of_cases {cases : List TestCase}
    (h : List.Forall₂ (fun value c => caseOf source value = .ok c) values cases) :
    RunsEach source values closure ⟨closure, cases⟩ := by
  obtain ⟨hvalues, hmem, labels, hlabels, hzip⟩ := exists_labels h
  constructor
  · refine ⟨labels, cases.flatMap caseTokens, hlabels, rfl, ?_, ?_⟩
    · intro calls
      rw [hzip]
      exact calls_flatMap_iff cases calls
    · intro σ run
      rw [hzip, List.map_map]
      rfl
  · intro σ run s
    rcases perform_cases ⟨closure, cases⟩ run s with
      ⟨t, hpasses, hrun⟩ | ⟨before, c, after, t, u, p, hsplit, hpasses, hpanic, hrun⟩
    · rw [← hvalues] at hpasses
      exact .inl ⟨t, hpasses, hrun⟩
    · obtain rfl : cases = before ++ c :: after := hsplit
      refine .inr ⟨before.map TestCase.value, c.value, after.map TestCase.value, c.label, t, u, p,
        ?_, hmem c List.mem_append_cons_self, hpasses, hpanic, hrun⟩
      rw [hvalues, List.map_append, List.map_cons]

variable (source : List Char) (ts : Tokens) in
/-- **Every value is run once, in order, under its own label.**  The expansion crashes exactly
    if the input is read with a crash, or if the source text of a value that would be run is;
    and neither is where they have no traps.  Otherwise there is one item and no report, or
    one report and no item.  There is the item exactly if the input takes values and a
    closure, and it runs the closure on each of them. -/
theorem runs_each_value_in_order :
    ((∃ c, expand source ts = .error c) ↔ Stumbles source ts)
      ∧ (Token.areLexed ts = true → ts.isTrapFree = true →
        (∀ args values closure, ts.readExprs = .ok args → Takes args values closure →
          ∀ value ∈ values, ∀ text us, (Tokens.span value).text? source = some text →
            Tokens.lex? text = some us → us.isTrapFree = true) →
        ∃ e, expand source ts = .ok e)
      ∧ ∀ e, expand source ts = .ok e →
        (e.items.length = 1 ∧ e.diagnostics = [] ∨ e.items = [] ∧ e.diagnostics.length = 1)
          ∧ (e.items ≠ [] ↔ ∃ args values closure, ts.readExprs = .ok args
            ∧ Takes args values closure)
          ∧ ∀ args values closure, ts.readExprs = .ok args → Takes args values closure →
            ∃ r, e.items = [r] ∧ RunsEach source values closure r := by
  refine ⟨exists_error_expand_iff, ?_, ?_⟩
  · intro hlexed htraps htexts
    have hfree := not_stumbles_of_isTrapFree hlexed htraps htexts
    rw [← exists_error_expand_iff, exists_error_iff, not_not] at hfree
    exact hfree
  · intro e he
    rcases expand_cases he with
      ⟨args, values, closure, cases, hread, htakes, hcases, rfl⟩ | ⟨hnone, d, rfl⟩
    · refine ⟨.inl ⟨rfl, rfl⟩, ?_, ?_⟩
      · exact iff_of_true (List.cons_ne_nil _ _) ⟨args, values, closure, hread, htakes⟩
      · intro args' values' closure' hread' htakes'
        rw [hread] at hread'
        cases hread'
        rw [htakes.eq_values htakes', htakes.eq_closure htakes']
        exact ⟨_, rfl, runsEach_of_cases hcases⟩
    · refine ⟨.inr ⟨rfl, rfl⟩, ?_, ?_⟩
      · refine iff_of_false (fun h => h rfl) ?_
        rintro ⟨args, values, closure, hread, htakes⟩
        exact hnone args values closure hread htakes
      · intro args values closure hread htakes
        exact absurd htakes (hnone args values closure hread)

end TestRun

namespace Sample

/-- Three values, two of them equal, and a closure. -/
def throws : Sample where
  source := "[4, 2 + 1, 4], |n| roll(n)"

/-- The elements of an array literal. -/
def elements : ExprForm → List Tokens
  | .array values => values
  | _ => []

/-- The source texts of the values have no traps. -/
def hasTrapFreeTexts (source : List Char) (ts : Tokens) : Bool :=
  ts.readExprs.toOption.all fun args => (args.head?.map Expr.form).all fun form =>
    (elements form).all fun value => ((Tokens.span value).text? source).all fun text =>
      (Tokens.lex? text).all Tokens.isTrapFree

theorem isTrapFree_of_hasTrapFreeTexts {source : List Char} {ts : Tokens}
    (h : hasTrapFreeTexts source ts = true) {args : List Expr} {values : List Tokens}
    {closure : Expr} (hread : ts.readExprs = .ok args) (htakes : TestRun.Takes args values closure)
    {value : Tokens} (hvalue : value ∈ values) {text : String} {us : Tokens}
    (htext : (Tokens.span value).text? source = some text) (hlex : Tokens.lex? text = some us) :
    us.isTrapFree = true := by
  rw [hasTrapFreeTexts, hread] at h
  have hforms : ((args.head?.map Expr.form).all fun form => (elements form).all fun value =>
      ((Tokens.span value).text? source).all fun text =>
        (Tokens.lex? text).all Tokens.isTrapFree) = true := h
  rw [htakes.array] at hforms
  have hfree := List.all_eq_true.mp hforms value hvalue
  rw [htext] at hfree
  have htokens : (Tokens.lex? text).all Tokens.isTrapFree = true := hfree
  rw [hlex] at htokens
  exact htokens

/-- Three cases are run, under the texts of the three values. -/
theorem throws_run_each_value_in_order :
    ∃ ts args values closure r, Tokens.lex? throws.source = some ts ∧ ts.readExprs = .ok args
      ∧ TestRun.Takes args values closure
      ∧ TestRun.expand throws.source.toList ts = .ok { items := [r] }
      ∧ r.cases.map TestCase.label = ["4", "2 + 1", "4"]
      ∧ TestRun.RunsEach throws.source.toList values closure r := by
  have hcheck : ((Tokens.lex? throws.source).any fun ts => ts.isTrapFree
      && hasTrapFreeTexts throws.source.toList ts
      && (TestRun.expand throws.source.toList ts).toOption.any fun e =>
        e.items.map (fun r => r.cases.map TestCase.label) = [["4", "2 + 1", "4"]]) = true := by
    decide +kernel
  obtain ⟨ts, hlex, hts⟩ := (Option.any_eq_true _ _).mp hcheck
  rw [Bool.and_eq_true, Bool.and_eq_true] at hts
  obtain ⟨⟨htraps, htexts⟩, hlabels⟩ := hts
  obtain ⟨-, hexists, hresult⟩ := TestRun.runs_each_value_in_order throws.source.toList ts
  obtain ⟨e, he⟩ := hexists (Tokens.areLexed_of_lex? hlex) htraps
    fun _ _ _ hread htakes _ hvalue _ _ => isTrapFree_of_hasTrapFreeTexts htexts hread htakes hvalue
  obtain ⟨hone, hitem, hruns⟩ := hresult e he
  rw [he] at hlabels
  have hlabels' := of_decide_eq_true hlabels
  have hitems : e.items ≠ [] := by
    intro hempty
    rw [hempty] at hlabels'
    cases hlabels'
  obtain ⟨args, values, closure, hread, htakes⟩ := hitem.mp hitems
  obtain ⟨r, hr, hrun⟩ := hruns args values closure hread htakes
  refine ⟨ts, args, values, closure, r, hlex, hread, htakes, ?_, ?_, hrun⟩
  · rcases hone with ⟨-, hnone⟩ | ⟨hempty, -⟩
    · rw [he, ← hr, ← hnone]
    · exact absurd hempty hitems
  · rw [hr] at hlabels'
    exact List.singleton_inj.mp hlabels'

/-- A value that is cast to a type that loses a separator. -/
def callbacks : Sample where
  source := "[f as fn(mut self: u8, u8, u8)], |g| run(g)"

/-- The expansion of a sample crashes, if it has no result. -/
theorem exists_error_expand_of_isNone {s : Sample} {source : List Char}
    (h : ((Tokens.lex? s.source).any fun ts =>
      (TestRun.expand source ts).toOption.isNone) = true) :
    ∃ ts, Tokens.lex? s.source = some ts ∧ ∃ c, TestRun.expand source ts = .error c := by
  obtain ⟨ts, hlex, hnone⟩ := (Option.any_eq_true _ _).mp h
  refine ⟨ts, hlex, exists_error_iff.mpr ?_⟩
  rintro ⟨e, he⟩
  rw [he] at hnone
  cases hnone

/-- The text has no quote in it, and the expansion of what is read from it crashes. -/
theorem callbacks_crash :
    '"' ∉ callbacks.source.toList ∧ ∃ ts, Tokens.lex? callbacks.source = some ts
      ∧ ∃ c, TestRun.expand callbacks.source.toList ts = .error c :=
  ⟨by decide, exists_error_expand_of_isNone (by decide +kernel)⟩

end Sample

end DeclMacros
