import DeclMacros.Accessors
import DeclMacros.Builder
import DeclMacros.Constructor
import DeclMacros.Conversion
import DeclMacros.Wrapper

/-! # Attaching macros

    A macro gets its arguments and the declaration it is attached to, and emits the
    declaration again, without the markers that are consumed, followed by what it
    generates and reports. -/

set_option autoImplicit false

namespace DeclMacros

/-- What an attached macro generates. -/
inductive Generated where
  | constructor (c : Constructor)
  | builder (b : Builder)
  | conversion (c : Conversion)
  | accessors (a : Accessors)
  | wrapper (w : Wrapper)

/-- The code of what was generated. -/
def Generated.tokens : Generated → Tokens
  | .constructor c => c.tokens
  | .builder b => b.tokens
  | .conversion c => c.tokens
  | .accessors a => a.tokens
  | .wrapper w => w.tokens

/-- What is left of an item after a macro: the item without consumed markers, and the expansion, or
    the fault in the macro's arguments. -/
structure Applied where
  item : Item
  outcome : Except Fault (Expansion Generated)

/-- The code that an applied macro emits. -/
def Applied.tokens (a : Applied) : Tokens :=
  match a.outcome with
  | .ok expansion => a.item.tokens ++ (expansion.map Generated.tokens).tokens
  | .error fault => a.item.tokens ++ compileError fault.message

namespace AttachedMacro

/-- The macro takes the type that it converts from. -/
def acceptsSource (m : AttachedMacro) : Bool := m = .conversion

/-- Expands a macro on an item. -/
def expand (m : AttachedMacro) (a : Attachment) (item : Item) :
    Except Crash (Expansion Generated) := do
  match m with
  | .constructor => return (← Constructor.expand .memberwise a item).map .constructor
  | .stub => return (← Constructor.expand .stub a item).map .constructor
  | .builder => return (← Builder.expand a item).map .builder
  | .conversion => return (← Conversion.expand a item).map .conversion
  | .accessors => return (← Accessors.expand a item).map .accessors
  | .erasure => return (← Wrapper.expand a item).map .wrapper

/-- Applies a macro with its arguments to an item. -/
def apply (m : AttachedMacro) (arguments : Tokens) (item : Item) : Except Crash Applied :=
  match Attachment.read arguments m.acceptsSource with
  | .ok a => do return { item := item.stripped, outcome := .ok (← m.expand a item) }
  | .error (.fault f) => .ok { item := item.stripped, outcome := .error f }
  | .error (.crash c) => .error c

/-- Applies a macro to an item that is yet to be read. An item at fault is not emitted again. -/
def attach (m : AttachedMacro) (arguments item : Tokens) : Except Crash Tokens :=
  match item.readItem with
  | .ok parsed => do return (← m.apply arguments parsed).tokens
  | .error (.fault f) => .ok (compileError f.message)
  | .error (.crash c) => .error c

end AttachedMacro

namespace Marker

/-- Checks a marker that stands on its own, which is right on a field only. It generates nothing. -/
def check (m : Marker) (item : Tokens) : Except Crash (Expansion Tokens) :=
  match item.readNamedField with
  | .ok _ => .ok {}
  | .error (.fault _) => .ok (.report ⟨.notProperty m, .callSite⟩)
  | .error (.crash c) => .error c

/-- Emits what a marker stands on as it is, and the report. -/
def attach (m : Marker) (item : Tokens) : Except Crash Tokens := do
  return item ++ (← m.check item).tokens

end Marker

/-- An attribute with a meaning of its own: a macro, or a marker that can stand alone. -/
inductive Attachable where
  | attached (m : AttachedMacro)
  | marker (m : Marker)
deriving DecidableEq, Repr

namespace Attachable

/-- The name of the attribute. -/
def name : Attachable → String
  | .attached m => m.name
  | .marker m => m.name

/-- All of them. -/
def all : List Attachable :=
  AttachedMacro.all.map .attached ++ [.marker .stub, .marker .parseable]

/-- The one of a name. -/
def ofName? (name : String) : Option Attachable :=
  all.find? fun m => m.name = name

/-- The code that the attribute stands for. A marker takes no notice of its arguments. -/
def attach (m : Attachable) (arguments item : Tokens) : Except Crash Tokens :=
  match m with
  | .attached m => m.attach arguments item
  | .marker m => m.attach item

end Attachable

end DeclMacros
