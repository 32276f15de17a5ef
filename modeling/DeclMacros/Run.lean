import DeclMacros.Pipeline

/-! # Runs of attached macros

    A run at the level of declarations: each macro gets the item that is left by the
    one before it, and nothing is printed and read again in between. -/

set_option autoImplicit false

namespace DeclMacros

/-- One step of a run. -/
structure MacroStep where
  attached : AttachedMacro
  /-- The item that the macro got, without the macro's own attribute. -/
  given : Item
  applied : Applied

/-- The macro among the attributes that runs next, its attribute, and the other attributes. -/
def AttachedMacro.split? : List Attribute → Option (AttachedMacro × Attribute × List Attribute)
  | [] => none
  | a :: rest =>
    match a.path.last?.bind fun name => AttachedMacro.ofName? name.display with
    | some m => some (m, a, rest)
    | none => (split? rest).map fun (m, found, others) => (m, found, a :: others)

namespace Item

/-- The steps of a run; `fuel` bounds their number. -/
def stepsWithin : Nat → Item → Except Crash (List MacroStep)
  | 0, _ => .ok []
  | fuel + 1, item =>
    match AttachedMacro.split? item.attrs with
    | none => .ok []
    | some (m, a, rest) => do
      let given := item.withAttrs rest
      let applied ← m.apply a.argumentTokens given
      return ⟨m, given, applied⟩ :: (← stepsWithin fuel applied.item)

/-- The steps of the run of an item. Each of them takes an attribute away. -/
def steps (item : Item) : Except Crash (List MacroStep) :=
  item.stepsWithin item.attrs.length

/-- All that the macros of an item generate, in order. -/
def generated (item : Item) : List Generated :=
  match item.steps with
  | .ok steps => steps.flatMap fun step =>
    match step.applied.outcome with
    | .ok e => e.items
    | .error _ => []
  | .error _ => []

end Item

end DeclMacros
