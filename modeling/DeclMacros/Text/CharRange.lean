/-! # Ranges of code points

    Unicode properties are given as lists of inclusive ranges of code points. -/

set_option autoImplicit false

namespace DeclMacros.Text

/-- The code point of the character lies in one of the inclusive ranges. -/
def inRanges (ranges : List (Nat × Nat)) (c : Char) : Bool :=
  ranges.any fun (low, high) => low ≤ c.toNat && c.toNat ≤ high

end DeclMacros.Text
