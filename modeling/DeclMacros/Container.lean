import DeclMacros.Tree.Type
import DeclMacros.Value

/-! # Conversion through containers

    A conversion of a type extends to optional values, lists and boxes of that type,
    and so to any nesting of them: each leaf is converted in its place. -/

set_option autoImplicit false

namespace DeclMacros

/-- The types that hold values of another type. -/
inductive Container where
  | option
  | list
  | box
deriving DecidableEq, Repr

namespace Container

/-- The name of the type. -/
def name : Container → String
  | .option => "Option"
  | .list => "Vec"
  | .box => "Box"

/-- All of them. -/
def all : List Container := [.option, .list, .box]

/-- Converts what a container holds. -/
def map (f : Value → Value) : Container → Value → Value
  | .option, .present v => .present (f v)
  | .list, .list vs => .list (vs.map f)
  | .box, .boxed v => .boxed (f v)
  | _, v => v

/-- The conversion of a nesting of containers, the outermost first, given that of the leaves. -/
def parse (leaf : Value → Value) : List Container → Value → Value
  | [], v => leaf v
  | c :: inner, v => c.map (parse leaf inner) v

end Container

namespace Ty

/-- The container that the type is, and the type of what it holds. -/
def container? : Ty → Option (Container × Ty)
  | .path p =>
    match p.last? with
    | some (.mk name (.angle _ [(.type inner, _)] _)) =>
      (Container.all.find? fun c => name.is c.name).map fun c => (c, inner)
    | _ => none
  | _ => none

/-- The containers around the innermost type, the outermost first; `depth` bounds their number. -/
def layersWithin : Nat → Ty → List Container × Ty
  | 0, ty => ([], ty)
  | depth + 1, ty =>
    match ty.container? with
    | none => ([], ty)
    | some (c, inner) =>
      let (cs, leaf) := layersWithin depth inner
      (c :: cs, leaf)

/-- The containers around the innermost type, the outermost first.  A type that holds another has
    more tokens than that one. -/
def layers (ty : Ty) : List Container × Ty := layersWithin (Token.sizes ty.tokens) ty

end Ty

end DeclMacros
