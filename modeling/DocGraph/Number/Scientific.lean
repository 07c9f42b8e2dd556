import DocGraph.Number.Extended

/-!
# Reading numbers with a point

A number in decimal notation: a sign, digits with a point before, between or after them, and
an exponent. The words for the infinite and for what is no number are read too.
-/

set_option autoImplicit false

namespace DocGraph.Number

/-- The value of decimal digits; nothing if some other character is among them. -/
def digitsValue? (s : List Char) : Option Nat :=
  s.foldlM (fun value c => if c.isDigit then some (value * 10 + (c.toNat - 48)) else none) 0

/-- The exponent behind a number, with the letter in front of it; no text stands for zero. -/
def exponent? : List Char → Option Int
  | [] => some 0
  | letter :: rest =>
    if letter ≠ 'e' && letter ≠ 'E' then none
    else
      match rest with
      | '-' :: c :: more => (digitsValue? (c :: more)).map fun n => -(n : Int)
      | '+' :: c :: more => (digitsValue? (c :: more)).map (Int.ofNat ·)
      | c :: more => (digitsValue? (c :: more)).map (Int.ofNat ·)
      | [] => none

/-- The double next to a natural number times a power of ten. Exponents that put the number out
of range on either side are not computed with. -/
def scaled (digits : Nat) (e : Int) : Extended :=
  if digits = 0 then .finite 0
  else if 400 < e then .infinite false
  else if e + (digits.log2 : Int) < -1100 then .finite 0
  else .ofRat (digits * tenPow e)

/-- Read a number without a sign. -/
def magnitude? (s : List Char) : Option Extended :=
  if s.map Char.toLower ∈ ["inf".toList, "infinity".toList] then some (.infinite false)
  else if s.map Char.toLower = "nan".toList then some .undefined
  else
    let whole := s.takeWhile Char.isDigit
    let rest := s.dropWhile Char.isDigit
    let (places, rest) :=
      match rest with
      | '.' :: more => (more.takeWhile Char.isDigit, more.dropWhile Char.isDigit)
      | rest => ([], rest)
    if whole.isEmpty && places.isEmpty then none
    else do
      let e ← exponent? rest
      let digits ← digitsValue? (whole ++ places)
      return scaled digits (e - places.length)

/-- Read a number. -/
def readDouble : List Char → Option Extended
  | '-' :: rest => (magnitude? rest).map Extended.negate
  | '+' :: rest => magnitude? rest
  | s => magnitude? s

end DocGraph.Number
