import DeclMacros.Attach

/-! # Running all macros of an item

    The macros attached to an item run from the outermost on.  Each one gets the item
    without its own attribute; what it emits first takes the item's place. -/

set_option autoImplicit false

namespace DeclMacros

/-- The arguments of an attribute: the content of one delimited group, or whatever stands there. -/
def Attribute.argumentTokens (a : Attribute) : Tokens :=
  match a.arguments with
  | [.group _ content _] => content
  | other => other

/-- The attribute among those of a list that runs next, and the rest. -/
def Attachable.split? : List Attribute → Option (Attachable × Attribute × List Attribute)
  | [] => none
  | a :: rest =>
    match a.path.last?.bind fun name => Attachable.ofName? name.display with
    | some m => some (m, a, rest)
    | none => (split? rest).map fun (m, found, others) => (m, found, a :: others)

namespace Item

/-- The macro that runs next, its attribute, and the item without that attribute. -/
def detach? (item : Item) : Option (Attachable × Attribute × Item) :=
  (Attachable.split? item.attrs).map fun (m, a, rest) => (m, a, item.withAttrs rest)

end Item

/-- One step: the name of the macro, and the items that it emitted or the fault in them. -/
structure PipelineStep where
  name : String
  outcome : Except Fault (List Item)

/-- The macros of an item run one after the other; `fuel` bounds their number. -/
def runWithin : Nat → Item → Except Crash (List PipelineStep)
  | 0, _ => .ok []
  | fuel + 1, item =>
    match item.detach? with
    | none => .ok []
    | some (m, a, rest) => do
      let emitted ← m.attach a.argumentTokens rest.tokens
      match emitted.readItems with
      | .error (.crash c) => throw c
      | .error (.fault f) => return [⟨m.name, .error f⟩]
      | .ok [] => return [⟨m.name, .ok []⟩]
      | .ok (first :: generated) =>
        return ⟨m.name, .ok (first :: generated)⟩ :: (← runWithin fuel first)

/-- All macros of an item. Every step takes one attribute away, so their number bounds the steps. -/
def runPipeline (item : Item) : Except Crash (List PipelineStep) :=
  runWithin (item.attrs.length + 1) item

end DeclMacros
