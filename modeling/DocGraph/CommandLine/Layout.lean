import DocGraph.CommandLine.Reply

/-!
# Layout

How replies are written on a console: tables with their columns side by side, and all else line
by line. A column is as wide as the widest of its cells asks for. A row takes as many lines as
the cell that takes most.
-/

set_option autoImplicit false

namespace DocGraph

namespace Layout

/-- The widths of the columns of rows. -/
def widths (rows : List (List String)) : List Nat :=
  let columns := (rows.map List.length).foldl max 0
  (List.range columns).map fun i =>
    (rows.map fun row => ConsoleText.width (row[i]?.getD "").toList).foldl max 0

/-- The lines that a row takes, each with a text for every cell. -/
def rowLines (widths : List Nat) (row : List String) : List (List String) :=
  let cells := List.zipWith (fun width text => ConsoleText.columnLines width text.toList) widths
    row
  let height := (cells.map List.length).foldl max 0
  (List.range height).map fun i => cells.map fun lines => String.ofList (lines[i]?.getD [])

/-- The rows of a table, with the header in front if it has one. -/
def rows (header : List String) (rows : List (List String)) : List (List String) :=
  if header.isEmpty then rows else header :: rows

/-- The lines of a table below its title, each with a text for every cell. -/
def cellLines (header : List String) (rows : List (List String)) : List (List String) :=
  let all := Layout.rows header rows
  all.flatMap (rowLines (widths all))

/-- A cell filled up with blanks to a width. -/
def cell (width : Nat) (text : String) : String :=
  text ++ String.ofList (ConsoleText.blanks (width - Text.cells text.toList))

/-- A line of a table, two blanks between its cells. -/
def line (widths : List Nat) (cells : List String) : String :=
  "  ".intercalate (List.zipWith cell widths cells)

/-- The lines of a table below its title. -/
def table (header : List String) (rows : List (List String)) : List String :=
  (cellLines header rows).map (line (widths (Layout.rows header rows)))

end Layout

/-- What is written for a part of a reply. -/
def Shown.written : Shown → String
  | .help usage options => "\n".intercalate (usage :: "" :: "Options:" :: options) ++ "\n"
  | .text s => s ++ "\n"
  | .document value => value.json ++ "\n"
  | .table title header rows => "\n".intercalate (title :: Layout.table header rows) ++ "\n"

/-- What is written for a reply. -/
def Reply.written (r : Reply) : String :=
  String.join (r.shown.map Shown.written)

end DocGraph
