/-!
# Lines

Splitting a text into lines. A line ends at a line feed, a carriage return, both in that
order, a vertical tab, a form feed, one of the three larger information separators, a next
line, or a line or paragraph separator of Unicode. What follows the last break is a line only
if it is not empty.
-/

set_option autoImplicit false

namespace DocGraph.Text

/-- Whether a character ends a line. -/
def isLineBreak (c : Char) : Bool :=
  c ∈ ['\n', '\r', '\x0b', '\x0c', '\x1c', '\x1d', '\x1e', '\u0085', '\u2028', '\u2029']

/-- Split into lines, given the lines already complete and the characters of the line being
read, both newest first. -/
def linesFrom (complete : List (List Char)) (line : List Char) : List Char → List (List Char)
  | [] => (if line.isEmpty then complete else line.reverse :: complete).reverse
  | '\r' :: '\n' :: rest => linesFrom (line.reverse :: complete) [] rest
  | c :: rest =>
    if isLineBreak c then linesFrom (line.reverse :: complete) [] rest
    else linesFrom complete (c :: line) rest

/-- The lines of a text, without the characters that end them. -/
def lines (s : List Char) : List (List Char) :=
  linesFrom [] [] s

/-- Write every carriage return, alone or before a line feed, as a line feed; `before` holds
what is already written, newest first. -/
def unifyBreaksFrom (before : List Char) : List Char → List Char
  | [] => before.reverse
  | '\r' :: '\n' :: rest => unifyBreaksFrom ('\n' :: before) rest
  | '\r' :: rest => unifyBreaksFrom ('\n' :: before) rest
  | c :: rest => unifyBreaksFrom (c :: before) rest

/-- Write every carriage return, alone or before a line feed, as a line feed. -/
def unifyBreaks (s : List Char) : List Char :=
  unifyBreaksFrom [] s

end DocGraph.Text
