/-!
# Double precision

The numbers that a double of 64 bits can hold, as rationals: 53 binary digits, the last of which
stands for no less than 2⁻¹⁰⁷⁴. `nearest` rounds to such a number, a tie to the one with an even
last digit. Numbers too large for a double are not told apart from those that fit.
-/

set_option autoImplicit false

namespace DocGraph.Number

/-- The nearest whole number, of two the even one. -/
def roundEven (x : Rat) : Int :=
  let below := x.floor
  let rest := x - below
  if rest < 1 / 2 then below
  else if 1 / 2 < rest then below + 1
  else if below % 2 = 0 then below
  else below + 1

/-- Two to a power, which may be negative. -/
def twoPow (e : Int) : Rat :=
  if 0 ≤ e then Nat.pow 2 e.toNat else 1 / Nat.pow 2 e.natAbs

/-- The exponent of the largest power of two that is not above a positive number. -/
def binaryExponent (x : Rat) : Int :=
  let guess : Int := (x.num.natAbs.log2 : Int) - (x.den.log2 : Int)
  if twoPow guess ≤ x then guess else guess - 1

/-- The exponent of the last binary digit of the double next to a positive number. -/
def lastPlace (x : Rat) : Int :=
  max (binaryExponent x - 52) (-1074)

/-- The nearest double, of two the one with an even last digit. -/
def nearest (x : Rat) : Rat :=
  if x = 0 then 0
  else
    let unit := twoPow (lastPlace (if x < 0 then -x else x))
    roundEven (x / unit) * unit

end DocGraph.Number
