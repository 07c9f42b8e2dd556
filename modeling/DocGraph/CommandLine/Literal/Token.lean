import DocGraph.CommandLine.Color
import DocGraph.Number.Integer

/-!
# Tokens of literals

A literal is a text that writes down a value: numbers, texts, bytes, names, and groups of them in
brackets. Here it is cut into its tokens. Blanks, comments behind a hash sign, and line ends
inside of brackets stand between tokens and are none. A number in decimal digits may have a
fraction, an exponent and the letter of the imaginary unit; in other digits it starts with a zero
and a letter. A text stands between quotes, or between threefold quotes if it has several lines;
a letter in front makes it bytes, or takes the meaning of its backslashes away.
-/

set_option autoImplicit false

namespace DocGraph

/-- A token of a literal. -/
inductive LiteralToken where
  /-- A bracket, a comma, a colon or a sign, or the end of a line outside of brackets. -/
  | mark (c : Char)
  | number (imaginary : Bool)
  | text
  | bytes
  | name (s : List Char)
  /-- Three points. -/
  | ellipsis
  deriving DecidableEq, Repr

namespace LiteralToken

/-- Whether a character may stand inside of a name. No number ends in front of one. -/
def isNameChar (c : Char) : Bool :=
  c.isAlphanum || c = '_' || 128 ≤ c.toNat

/-- Whether a character is a hexadecimal digit. -/
def isHexadecimal (c : Char) : Bool :=
  Color.isHexDigit c.toLower

/-! ## Numbers -/

/-- The digits at the front, between which single underscores may stand, and what follows. -/
def digitsAt? (isDigit : Char → Bool) (s : List Char) : Option (List Char × List Char) :=
  let front := s.takeWhile fun c => isDigit c || c = '_'
  if Number.areUnderscoresInside front then
    some (front.filter isDigit, s.drop front.length)
  else none

/-- What follows one digit or more. -/
def afterDigits? (isDigit : Char → Bool) (s : List Char) : Option (List Char) := do
  let (digits, rest) ← digitsAt? isDigit s
  if digits.isEmpty then none else some rest

/-- What follows the letter for a base and the digits behind it. -/
def afterBased? (isDigit : Char → Bool) (s : List Char) : Option (List Char) :=
  afterDigits? isDigit (if s.head? = some '_' then s.tail else s)

/-- Whether a point and digits stand at the front, and what follows. The digits may be missing. -/
def fractionAt? : List Char → Option (Bool × List Char)
  | '.' :: rest => (digitsAt? Char.isDigit rest).map fun found => (true, found.2)
  | s => some (false, s)

/-- Whether an exponent stands at the front, and what follows. -/
def exponentAt? : List Char → Option (Bool × List Char)
  | [] => some (false, [])
  | c :: rest =>
    if c.toLower = 'e' then
      let digits :=
        match rest with
        | '+' :: digits | '-' :: digits => digits
        | digits => digits
      (afterDigits? Char.isDigit digits).map (true, ·)
    else some (false, c :: rest)

/-- Whether digits make a whole number: only zero starts with a zero, and there is a limit to the
number of digits. -/
def isWhole (digits : List Char) : Bool :=
  digits.all (· = '0') || (digits.head? ≠ some '0' && digits.length ≤ Number.digitLimit)

/-- A number in decimal digits, and what follows. -/
def decimalAt? (s : List Char) : Option (LiteralToken × List Char) := do
  let (whole, rest) ← digitsAt? Char.isDigit s
  let (hasFraction, rest) ← fractionAt? rest
  let (hasExponent, rest) ← exponentAt? rest
  match rest with
  | 'j' :: rest | 'J' :: rest => some (.number true, rest)
  | rest => if hasFraction || hasExponent || isWhole whole then some (.number false, rest) else none

/-- A number, and what may follow. -/
def numberAt? (s : List Char) : Option (LiteralToken × List Char) := do
  let based (isDigit : Char → Bool) (rest : List Char) : Option (LiteralToken × List Char) :=
    (afterBased? isDigit rest).map (.number false, ·)
  let (token, rest) ←
    match s with
    | '0' :: 'x' :: rest | '0' :: 'X' :: rest => based isHexadecimal rest
    | '0' :: 'o' :: rest | '0' :: 'O' :: rest => based (fun c => '0' ≤ c && c ≤ '7') rest
    | '0' :: 'b' :: rest | '0' :: 'B' :: rest => based (fun c => c = '0' || c = '1') rest
    | s => decimalAt? s
  if rest.head?.any isNameChar then none else some (token, rest)

/-! ## Texts -/

/-- Whether so many hexadecimal digits stand at the front. -/
def startsWithCode (count : Nat) (s : List Char) : Bool :=
  (s.take count).length = count && (s.take count).all isHexadecimal

/-- Whether a backslash in front of a character makes sense there. The codes of a text are
those of characters. -/
def isEscape (isText : Bool) (c : Char) (rest : List Char) : Bool :=
  match c with
  | 'x' => startsWithCode 2 rest
  | 'u' => !isText || startsWithCode 4 rest
  | 'U' =>
    !isText || (startsWithCode 8 rest &&
      String.ofList ((rest.take 8).map Char.toLower) ≤ "0010ffff")
  | 'N' => !isText
  | _ => true

/-- What follows the quote that ends a text or bytes. Bytes are written in ASCII. -/
def afterQuoted? (isText isRaw isLong : Bool) (quote : Char) : List Char → Option (List Char)
  | [] => none
  | '\\' :: c :: rest =>
    if (isRaw || isEscape isText c rest) && (isText || c.toNat < 128) then
      afterQuoted? isText isRaw isLong quote rest
    else none
  | c :: rest =>
    if c = quote && (!isLong || rest.take 2 = [quote, quote]) then
      some (if isLong then rest.drop 2 else rest)
    else if (c = '\n' && !isLong) || (!isText && 128 ≤ c.toNat) then none
    else afterQuoted? isText isRaw isLong quote rest

/-- What follows a text or bytes behind the quote that starts them. -/
def afterQuote? (isText isRaw : Bool) (quote : Char) (s : List Char) : Option (List Char) :=
  if s.take 2 = [quote, quote] then afterQuoted? isText isRaw true quote (s.drop 2)
  else afterQuoted? isText isRaw false quote s

/-- Whether letters in front of a quote are for a text, and whether its backslashes have no
meaning. -/
def quoteKind? (letters : List Char) : Option (Bool × Bool) :=
  match String.ofList (letters.map Char.toLower) with
  | "" | "u" => some (true, false)
  | "r" => some (true, true)
  | "b" => some (false, false)
  | "br" | "rb" => some (false, true)
  | _ => none

/-- A name, a text or bytes, and what follows. -/
def wordAt? (s : List Char) : Option (LiteralToken × List Char) :=
  let letters := s.takeWhile isNameChar
  match s.drop letters.length with
  | '\'' :: rest => quoted letters '\'' rest
  | '"' :: rest => quoted letters '"' rest
  | rest => if letters.isEmpty then none else some (.name letters, rest)
where
  /-- A text or bytes behind letters and a quote. -/
  quoted (letters : List Char) (quote : Char) (rest : List Char) :
      Option (LiteralToken × List Char) := do
    let (isText, isRaw) ← quoteKind? letters
    (afterQuote? isText isRaw quote rest).map (if isText then .text else .bytes, ·)

/-! ## All tokens -/

/-- The token at the front, and what follows. -/
def at? : List Char → Option (LiteralToken × List Char)
  | [] => none
  | c :: rest =>
    if c ∈ ['(', ')', '{', '}', ',', ':', '+', '-'] then some (.mark c, rest)
    else if c.isDigit then numberAt? (c :: rest)
    else if c = '.' then
      match rest with
      | '.' :: '.' :: after => some (.ellipsis, after)
      | rest => if rest.head?.any Char.isDigit then numberAt? (c :: rest) else none
    else wordAt? (c :: rest)

/-- How many brackets may be open at once. -/
def depthLimit : Nat := 200

/-- How many brackets are open behind a token. -/
def depthAfter? (depth : Nat) : LiteralToken → Option Nat
  | .mark '(' | .mark '{' => if depth < depthLimit then some (depth + 1) else none
  | .mark ')' | .mark '}' => some (depth - 1)
  | _ => some depth

/-- Whether a character stands between tokens without any meaning. -/
def isSpace (c : Char) : Bool :=
  c = ' ' || c = '\t' || c = '\x0c'

/-- Whether a line starts with blanks in front of a token. A form feed takes the blanks in front
of it away. -/
def isIndented (line : List Char) : Bool :=
  ((line.takeWhile isSpace).getLast?.any (· ≠ '\x0c')) &&
    (line.dropWhile isSpace).head?.any fun c => c ≠ '\n' && c ≠ '#'

/-- The tokens of a text with some brackets open. No more steps are made than there is fuel. -/
def tokensFrom (depth : Nat) : Nat → List Char → Option (List LiteralToken)
  | 0, _ => none
  | _, [] => some []
  | fuel + 1, c :: rest =>
    if c = '#' then tokensFrom depth fuel (rest.dropWhile (· ≠ '\n'))
    else if isSpace c then tokensFrom depth fuel rest
    else if c = '\n' then
      if 0 < depth then tokensFrom depth fuel rest
      else if isIndented rest then none
      else (tokensFrom depth fuel rest).map (.mark c :: ·)
    else if c = '\\' then
      match rest with
      | '\n' :: after => if after.isEmpty then none else tokensFrom depth fuel after
      | _ => none
    else do
      let (token, after) ← at? (c :: rest)
      return token :: (← tokensFrom (← depthAfter? depth token) fuel after)

/-- A text with the same end for all of its lines. -/
def withLineEnds : List Char → List Char
  | [] => []
  | '\r' :: '\n' :: rest => '\n' :: withLineEnds rest
  | c :: rest => (if c = '\r' then '\n' else c) :: withLineEnds rest

/-- The tokens of a text. -/
def tokens? (s : List Char) : Option (List LiteralToken) :=
  tokensFrom 0 (s.length + 1) (withLineEnds s)

end LiteralToken

end DocGraph
