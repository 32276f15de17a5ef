import DeclMacros.TestCases

/-! # Activities

    A task may change a shared state, and ends with a value or with a panic.  An
    activity is a task under a name: its value is passed on, and its panic is raised
    again with the name in front of the message.

    `Step` is a small language of nested activities, with steps that count, panic and
    catch. -/

set_option autoImplicit false

namespace DeclMacros

/-- What a panic carries. -/
inductive Payload where
  /-- A text that is part of the program. -/
  | fixed (text : String)
  /-- A text that was made when the panic was raised. -/
  | made (text : String)
  /-- Anything else. -/
  | other
deriving DecidableEq, Repr

namespace Payload

/-- The text of a panic, if it carries one. -/
def text? : Payload → Option String
  | .fixed text => some text
  | .made text => some text
  | .other => none

/-- The message of a panic as an activity reports it. -/
def message (p : Payload) : String := p.text?.getD "unknown panic"

end Payload

/-- A computation that changes a state and ends with a value or with a panic. -/
abbrev Task (σ α : Type) := σ → σ × Except Payload α

/-! ## Named tasks -/

/-- The message of a panic that leaves an activity. -/
def failureMessage (name message : String) : String :=
  "test case `" ++ name ++ "` failed: " ++ message

namespace Task

variable {σ α : Type}

/-- Runs a task once under a name. -/
def named (name : String) (body : Task σ α) : Task σ α := fun s =>
  match body s with
  | (s, .ok a) => (s, .ok a)
  | (s, .error p) => (s, .error (.made (failureMessage name p.message)))

/-- Runs a task under several names, the outermost first. -/
def nested (names : List String) (body : Task σ α) : Task σ α :=
  names.foldr named body

/-- Runs tasks in order, up to and including the first that panics. -/
def inOrder : List (Task σ Unit) → Task σ Unit
  | [], s => (s, .ok ())
  | task :: rest, s =>
    match task s with
    | (s, .ok ()) => inOrder rest s
    | (s, .error p) => (s, .error p)

end Task

/-- What a test run does, given what its closure does on a value: each case under its label. -/
def TestRun.perform {σ : Type} (r : TestRun) (closure : Tokens → Task σ Unit) : Task σ Unit :=
  Task.inOrder (r.cases.map fun c => (closure c.value).named c.label)

/-! ## Steps -/

/-- An entry of the log. -/
inductive LogEntry where
  /-- An activity ended with this total. -/
  | ran (name : String) (total : Int64)
  /-- A panic was caught; its text, if it carries one. -/
  | caught (text : Option String)

/-- A step, which adds to a total. -/
inductive Step where
  | add (n : Int64)
  | raise (p : Payload)
  /-- Steps with a total of their own, as an activity. -/
  | run (name : String) (steps : List Step)
  /-- Steps with a total of their own, which is dropped when they panic. -/
  | catching (steps : List Step)
deriving Inhabited

namespace Step

mutual

/-- Performs a step; the result is what it adds. -/
def perform : Step → Task (List LogEntry) Int64
  | .add n, log => (log, .ok n)
  | .raise p, log => (log, .error p)
  | .run name steps, log =>
    match Task.named name (performAll 0 steps) log with
    | (log, .ok total) => (log ++ [.ran name total], .ok total)
    | (log, .error p) => (log, .error p)
  | .catching steps, log =>
    match performAll 0 steps log with
    | (log, .ok total) => (log, .ok total)
    | (log, .error p) => (log ++ [.caught p.text?], .ok 0)

/-- Performs steps in order; the result is the total. -/
def performAll (total : Int64) : List Step → Task (List LogEntry) Int64
  | [], log => (log, .ok total)
  | step :: rest, log =>
    match step.perform log with
    | (log, .ok n) => performAll (total + n) rest log
    | (log, .error p) => (log, .error p)

end

end Step

end DeclMacros
