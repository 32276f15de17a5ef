import DeclMacros.Activity

/-! # What leaves an activity

    An activity runs its task once.  A value is passed on, and a panic is raised again as
    a text of its own, with the name in front.  So from the first activity on the panic
    carries a text, whatever the task raised: around several activities the names pile up
    in front of the message, and no level has to guess it anew (`names_every_level`).

    Tasks in a row are run up to the first panic (`perform_cases`).  What one activity
    does is said by `named_of_ok` and `named_of_panic`; the nesting and the row are one
    induction each on top of these. -/

set_option autoImplicit false

namespace DeclMacros

namespace Task

variable {σ α : Type}

/-! ## One activity -/

theorem named_of_ok {name : String} {body : Task σ α} {s s' : σ} {a : α}
    (h : body s = (s', .ok a)) : body.named name s = (s', .ok a) := by
  rw [named, h]

theorem named_of_panic {name : String} {body : Task σ α} {s s' : σ} {p : Payload}
    (h : body s = (s', .error p)) :
    body.named name s = (s', .error (.made (failureMessage name p.message))) := by
  rw [named, h]

/-! ## Activities in activities -/

/-- What the names put in front of a message, the outermost first. -/
def heading (names : List String) : String :=
  String.join (names.map fun name => "test case `" ++ name ++ "` failed: ")

theorem heading_cons (name : String) (names : List String) (message : String) :
    heading (name :: names) ++ message = failureMessage name (heading names ++ message) := by
  rw [heading, List.map_cons, String.join_cons, failureMessage]
  simp only [heading, String.append_assoc]

theorem nested_cons (name : String) (names : List String) (body : Task σ α) :
    nested (name :: names) body = (nested names body).named name := rfl

theorem nested_append (outer inner : List String) (body : Task σ α) :
    nested (outer ++ inner) body = nested outer (nested inner body) := by
  rw [nested, List.foldr_append]
  rfl

variable {body : Task σ α} {s s' : σ}

/-- A value is passed on by every level. -/
theorem nested_of_ok {a : α} (h : body s = (s', .ok a)) (names : List String) :
    nested names body s = (s', .ok a) := by
  induction names with
  | nil => exact h
  | cons name names ih =>
      rw [nested_cons]
      exact named_of_ok ih

/-- A text stays at the end of what every level raises. -/
theorem nested_of_text {p : Payload} {text : String} (h : body s = (s', .error p))
    (htext : p.text? = some text) (names : List String) :
    ∃ q, nested names body s = (s', .error q) ∧ q.text? = some (heading names ++ text) := by
  induction names with
  | nil =>
      refine ⟨p, h, ?_⟩
      rw [htext, heading, List.map_nil, String.join_nil, String.empty_append]
  | cons name names ih =>
      obtain ⟨q, hq, hqtext⟩ := ih
      refine ⟨.made (failureMessage name q.message), named_of_panic hq, ?_⟩
      rw [heading_cons, Payload.text?, Payload.message, hqtext]
      rfl

/-- The innermost activity makes a text of any panic, and the others keep it. -/
theorem nested_of_panic {p : Payload} (h : body s = (s', .error p)) {names : List String}
    (hnames : names ≠ []) :
    nested names body s = (s', .error (.made (heading names ++ p.message))) := by
  induction names with
  | nil => exact absurd rfl hnames
  | cons name names ih =>
      rw [nested_cons, heading_cons]
      cases names with
      | nil =>
          have hempty : heading [] ++ p.message = p.message := String.empty_append
          rw [hempty]
          exact named_of_panic h
      | cons next names => exact named_of_panic (ih (List.cons_ne_nil next names))

/-- The task is run once: no level changes the state. -/
theorem state_nested (names : List String) (body : Task σ α) (s : σ) :
    (nested names body s).1 = (body s).1 := by
  rcases hbody : body s with ⟨s', p | a⟩
  · cases names with
    | nil =>
        rw [show nested [] body s = body s from rfl, hbody]
    | cons name names => rw [nested_of_panic hbody (List.cons_ne_nil name names)]
  · rw [nested_of_ok hbody names]

end Task

namespace Sample

/-- A task that counts how often it is run, and panics with something that is no text. -/
def stumble : Task Nat Unit := fun runs => (runs + 1, .error .other)

end Sample

/-! ## Activities in a row -/

namespace TestRun

variable {σ : Type}

/-- The values are run one after the other, none of them panics, and together they take the
    first state to the second. -/
inductive Passes (closure : Tokens → Task σ Unit) : List Tokens → σ → σ → Prop where
  | nil (s : σ) : Passes closure [] s s
  | cons {value : Tokens} {values : List Tokens} {s t u : σ}
      (first : closure value s = (t, .ok ())) (rest : Passes closure values t u) :
      Passes closure (value :: values) s u

variable {closure : Tokens → Task σ Unit} {bound : Expr} {c : TestCase} {cases : List TestCase}
  {s t : σ}

/-- After a value that passes, the run goes on with the others. -/
theorem perform_cons_of_ok (h : closure c.value s = (t, .ok ())) :
    perform ⟨bound, c :: cases⟩ closure s = perform ⟨bound, cases⟩ closure t := by
  rw [perform, List.map_cons, Task.inOrder, Task.named_of_ok h]
  rfl

/-- A value that panics ends the run. -/
theorem perform_cons_of_panic {p : Payload} (h : closure c.value s = (t, .error p)) :
    perform ⟨bound, c :: cases⟩ closure s
      = (t, .error (.made (failureMessage c.label p.message))) := by
  rw [perform, List.map_cons, Task.inOrder, Task.named_of_panic h]

/-- **A test run** goes through all of its values, or up to and including the first that
    panics, and raises that panic under the label of its case. -/
theorem perform_cases (r : TestRun) (closure : Tokens → Task σ Unit) (s : σ) :
    (∃ t, Passes closure (r.cases.map TestCase.value) s t ∧ r.perform closure s = (t, .ok ()))
      ∨ ∃ before c after t u p, r.cases = before ++ c :: after
        ∧ Passes closure (before.map TestCase.value) s t
        ∧ closure c.value t = (u, .error p)
        ∧ r.perform closure s = (u, .error (.made (failureMessage c.label p.message))) := by
  obtain ⟨bound, cases⟩ := r
  induction cases generalizing s with
  | nil => exact .inl ⟨s, .nil s, rfl⟩
  | cons c cases ih =>
      rcases hfirst : closure c.value s with ⟨t, p | ⟨⟩⟩
      · -- the first value panics, and nothing after it is run
        exact .inr ⟨[], c, cases, s, t, p, rfl, .nil s, hfirst, perform_cons_of_panic hfirst⟩
      · rw [perform_cons_of_ok hfirst]
        rcases ih t with ⟨u, hpasses, hrun⟩ | ⟨before, d, after, u, v, p, hsplit, hpasses, hd, hrun⟩
        · exact .inl ⟨u, .cons hfirst hpasses, hrun⟩
        · exact .inr ⟨c :: before, d, after, u, v, p, congrArg (c :: ·) hsplit,
            .cons hfirst hpasses, hd, hrun⟩

end TestRun

end DeclMacros
