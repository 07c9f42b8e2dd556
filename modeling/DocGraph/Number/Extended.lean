import DocGraph.Number.Decimal

/-!
# Doubles that are not finite

All that a double of 64 bits stands for: the finite numbers, with two zeros that differ in their
sign, the two infinities, and what is no number.
-/

set_option autoImplicit false

namespace DocGraph.Number

/-- A double, which need not be finite. -/
inductive Extended where
  | finite (x : Rat)
  /-- The zero with a minus. -/
  | negativeZero
  | infinite (negative : Bool)
  | undefined
  deriving DecidableEq, Repr

namespace Extended

/-- The double next to a rational. What rounds to two to the 1024 or more is infinite. -/
def ofRat (x : Rat) : Extended :=
  let y := nearest x
  if twoPow 1024 ≤ y then .infinite false
  else if y ≤ -twoPow 1024 then .infinite true
  else .finite y

/-- The rational that a finite double stands for. -/
def value? : Extended → Option Rat
  | .finite x => some x
  | .negativeZero => some 0
  | .infinite _ => none
  | .undefined => none

/-- A double as text, if it is finite in the fewest digits that read back as it. -/
def text : Extended → String
  | .finite x => shortestText x
  | .negativeZero => "-0.0"
  | .infinite negative => if negative then "-inf" else "inf"
  | .undefined => "nan"

/-- The other sign. -/
def negate : Extended → Extended
  | .finite x => if x = 0 then .negativeZero else .finite (-x)
  | .negativeZero => .finite 0
  | .infinite negative => .infinite !negative
  | .undefined => .undefined

/-- Whether a double is at least zero, which one that is no number is not. -/
def isNonnegative : Extended → Bool
  | .finite x => 0 ≤ x
  | .negativeZero => true
  | .infinite negative => !negative
  | .undefined => false

end Extended

end DocGraph.Number
