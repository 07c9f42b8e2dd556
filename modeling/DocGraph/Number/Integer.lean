import DocGraph.Text.Blank
import DocGraph.Text.DecimalDigit
import DocGraph.Text.Occurrence

/-!
# Reading whole numbers

A whole number in text: white space around it, a sign, and decimal digits of any script, between
which single underscores may stand. There is a limit to the number of digits, zeros in front
included. A number beyond the limit is refused as such whatever stands behind it.
-/

set_option autoImplicit false

namespace DocGraph.Number

/-- Why a text is not read as a whole number. -/
inductive IntegerError where
  | malformed
  /-- There are more digits than are read, namely so many. -/
  | tooLong (digits : Nat)
  deriving DecidableEq, Repr

/-- How many digits are read at most. -/
def digitLimit : Nat := 4300

/-- Whether underscores only stand one by one between other characters. -/
def areUnderscoresInside (s : List Char) : Bool :=
  s.head? ≠ some '_' && s.getLast? ≠ some '_' && !Text.occursIn ['_', '_'] s

/-- Whether a character belongs to a number: a digit or an underscore. -/
def isNumberPart (c : Char) : Bool :=
  c = '_' || (Text.digitValue? c).isSome

/-- The number with the given digits. -/
def ofDigits (digits : List Nat) : Nat :=
  digits.foldl (fun value d => value * 10 + d) 0

/-- Read a number without a sign. -/
def readNatural (s : List Char) : Except IntegerError Nat :=
  let front := s.takeWhile isNumberPart
  let digits := front.filterMap Text.digitValue?
  if front.isEmpty || !areUnderscoresInside front then .error .malformed
  else if digitLimit < digits.length then .error (.tooLong digits.length)
  else if front.length < s.length then .error .malformed
  else .ok (ofDigits digits)

/-- Read a whole number. -/
def readInteger (text : String) : Except IntegerError Int :=
  match Text.trimWhiteSpace text.toList with
  | '+' :: rest => (readNatural rest).map (Int.ofNat ·)
  | '-' :: rest => (readNatural rest).map fun n => -(n : Int)
  | s => (readNatural s).map (Int.ofNat ·)

end DocGraph.Number
