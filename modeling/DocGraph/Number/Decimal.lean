import DocGraph.Number.Binary64

/-!
# Decimal text

Numbers in decimal notation: with a fixed count of places, rounded to the nearest with ties to
the even digit, and with the fewest digits that read back as the same double.
-/

set_option autoImplicit false

namespace DocGraph.Number

/-- A text padded with zeros in front to a width. -/
def padded (width : Nat) (text : String) : String :=
  String.ofList (List.replicate (width - text.length) '0') ++ text

/-- A number with one digit after the point. -/
def onePlace (x : Rat) : String :=
  let tenths := roundEven (x * 10)
  let sign := if x < 0 then "-" else ""
  sign ++ toString (tenths.natAbs / 10) ++ "." ++ toString (tenths.natAbs % 10)

/-- Ten to a power, which may be negative. -/
def tenPow (e : Int) : Rat :=
  if 0 ≤ e then Nat.pow 10 e.toNat else 1 / Nat.pow 10 e.natAbs

/-- The exponent of the largest power of ten that is not above a positive number, found by
counting on from a lower bound. -/
def decimalExponent (x : Rat) : Int :=
  let low : Int := (binaryExponent x * 3) / 10 - 2
  let steps := (binaryExponent x).natAbs / 100 + 4
  (List.range steps).foldl (fun e _ => if tenPow (e + 1) ≤ x then e + 1 else e) low

/-- The multiple of ten to a power that reads back as a positive double, if one of the two
neighbours of the double does; of two the nearer one, and of two as near the even one. -/
def onGrid? (x : Rat) (e : Int) : Option Nat :=
  let unit := tenPow e
  let below := (x / unit).floor
  let candidates := [below, below + 1].filter fun (n : Int) => nearest (n * unit) = x
  match candidates with
  | [] => none
  | [n] => some n.toNat
  | _ => some (roundEven (x / unit)).toNat

/-- The fewest decimal digits that read back as a positive double, and the exponent of the
last of them. -/
def shortest (x : Rat) : Nat × Int :=
  let top := decimalExponent x
  let grids := (List.range 17).map fun (i : Nat) => top - i
  match grids.findSome? fun e => (onGrid? x e).map (·, e) with
  | some found => found
  | none => (0, 0)

/-- Digits without the zeros at their end, which raise the exponent of the last one. -/
def withoutZeros (fuel digits : Nat) (e : Int) : Nat × Int :=
  match fuel with
  | 0 => (digits, e)
  | fuel + 1 =>
    if digits ≠ 0 && digits % 10 = 0 then withoutZeros fuel (digits / 10) (e + 1) else (digits, e)

/-- Digits with the point behind the first of them and the exponent of ten after them. -/
def scientific (digits : String) (exponent : Int) : String :=
  let rest := (digits.drop 1).toString
  let mantissa := (digits.take 1).toString ++ if rest.isEmpty then "" else "." ++ rest
  let sign := if exponent < 0 then "-" else "+"
  mantissa ++ "e" ++ sign ++ padded 2 (toString exponent.natAbs)

/-- Digits with the point where it belongs, and a digit on either side of it. -/
def positional (digits : String) (exponent : Int) : String :=
  if exponent < 0 then
    "0." ++ String.ofList (List.replicate (exponent.natAbs - 1) '0') ++ digits
  else
    let whole := exponent.toNat + 1
    if digits.length ≤ whole then
      digits ++ String.ofList (List.replicate (whole - digits.length) '0') ++ ".0"
    else (digits.take whole).toString ++ "." ++ (digits.drop whole).toString

/-- A double in the fewest digits that read back as it. The point is shifted to its place from
one ten-thousandth up to ten to the sixteenth; outside of that, an exponent is written. -/
def shortestText (x : Rat) : String :=
  if x = 0 then "0.0"
  else
    let sign := if x < 0 then "-" else ""
    let found := shortest (if x < 0 then -x else x)
    let (digits, e) := withoutZeros 17 found.1 found.2
    let text := toString digits
    let exponent := e + text.length - 1
    if -4 ≤ exponent && exponent < 16 then sign ++ positional text exponent
    else sign ++ scientific text exponent

end DocGraph.Number
