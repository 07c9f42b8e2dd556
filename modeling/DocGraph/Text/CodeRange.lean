/-!
# Code ranges

Closed ranges of code points, the form in which tables of character properties are kept.
-/

set_option autoImplicit false

namespace DocGraph.Text

/-- The characters from one code point to another, both included. -/
structure CodeRange where
  first : Nat
  last : Nat

/-- Whether a character lies in one of the ranges. -/
def inRanges (ranges : List CodeRange) (c : Char) : Bool :=
  ranges.any fun r => r.first ≤ c.toNat && c.toNat ≤ r.last

end DocGraph.Text
