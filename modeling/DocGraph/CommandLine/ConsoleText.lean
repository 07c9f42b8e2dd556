import DocGraph.CommandLine.Emoji
import DocGraph.Text.CellWidth
import DocGraph.Text.Lines
import DocGraph.Text.Occurrence

/-!
# Texts on a console

What a console makes of a text: names of emoji are replaced, a few control characters are left
out, and blanks take the place of tabs.

In a column of a table, a line that does not fit is broken between words. What still does not fit
is cut off, and an ellipsis says so.
-/

set_option autoImplicit false

namespace DocGraph.ConsoleText

/-- Whether a character is a control that a console would follow: bell, backspace, tabulator of
lines, form feed and carriage return. -/
def isControl (c : Char) : Bool :=
  c ∈ ['\x07', '\x08', '\x0b', '\x0c', '\x0d']

/-- A text with its emoji and without controls. -/
def withEmoji (s : List Char) : List Char :=
  (Emoji.replace s).filter fun c => !isControl c

/-- How far tabs are apart. -/
def tabWidth : Nat := 8

/-- Blanks. -/
def blanks (count : Nat) : List Char :=
  List.replicate count ' '

/-- A line with blanks in place of tabs, of which so many cells are already there. -/
def expandTabs (used : Nat) : List Char → List Char
  | [] => []
  | c :: rest =>
    if c = '\t' then
      let count := tabWidth - used % tabWidth
      blanks count ++ expandTabs (used + count) rest
    else c :: expandTabs (used + Text.cellsOf c) rest

/-- A text as it is shown outside of tables, where lines are as long as they need to be. -/
def shown (text : String) : String :=
  let lines := (Text.splitOn '\n' (withEmoji text.toList)).map (expandTabs 0)
  "\n".intercalate (lines.map String.ofList)

/-- The width that a text asks for. Tabs do not count, and all that ends lines does so. -/
def width (s : List Char) : Nat :=
  ((Text.lines s).map Text.cells).foldl max 0

/-- The words of a line with the blanks behind them, and with those in front of the first one.
Given are the word being read, newest first, whether it has other characters than blanks, and
whether it has blanks behind them. A line of blanks has no words. -/
def spacedWords (word : List Char) (begun ended : Bool) : List Char → List (List Char)
  | [] => if begun then [word.reverse] else []
  | c :: rest =>
    if Text.isBlank c then spacedWords (c :: word) begun begun rest
    else if ended then word.reverse :: spacedWords [c] true false rest
    else spacedWords (c :: word) true false rest

/-- Put words into lines of a width, given the line that is being filled and how many cells it
takes. -/
def fillLines (width : Nat) (line : List Char) (used : Nat) : List (List Char) → List (List Char)
  | [] => [line]
  | word :: rest =>
    if line.isEmpty || used + Text.cells (Text.trimBack word) ≤ width then
      fillLines width (line ++ word) (used + Text.cells word) rest
    else line :: fillLines width word (Text.cells word) rest

/-- Break a line between words so that its parts have a width, if they can. -/
def breakLine (width : Nat) (s : List Char) : List (List Char) :=
  match spacedWords [] false false s with
  | [] => [s]
  | words => fillLines width [] 0 words

/-- The characters at the front of a text that take so many cells. Half of a wide character is
made up for by a blank. -/
def takeCells (count : Nat) : List Char → List Char
  | [] => blanks count
  | c :: rest =>
    if count = 0 then []
    else if Text.cellsOf c ≤ count then c :: takeCells (count - Text.cellsOf c) rest
    else [' ']

/-- A line cut off at a width. Blanks at its end go first. -/
def cutLine (width : Nat) (s : List Char) : List Char :=
  let trailing := s.length - (Text.trimBack s).length
  let s := s.take (s.length - min trailing (s.length - width))
  if Text.cells s ≤ width then s else takeCells (width - 1) s ++ ['…']

/-- The lines of a text in a column of a width. -/
def columnLines (width : Nat) (s : List Char) : List (List Char) :=
  (Text.splitOn '\n' s).flatMap fun line =>
    (breakLine width (expandTabs 0 line)).map (cutLine width)

end DocGraph.ConsoleText
