import DocGraph.Number.Extended
import DocGraph.Text.Quoted

/-!
# Values

The values that configuration files and options hold: scalars, lists, and tables with text keys.
What a reader of such a value expects may not be there. A `ShapeError` says which expectation
failed.
-/

set_option autoImplicit false

namespace DocGraph

/-- A value of a configuration file or of an option. -/
inductive Value where
  | nothing
  | switch (on : Bool)
  | integer (n : Int)
  /-- A number with a decimal point. -/
  | decimal (x : Number.Extended)
  | text (s : String)
  | list (items : List Value)
  | table (entries : List (String × Value))
  deriving Inhabited

/-- A value is not of the shape that its place asks for. -/
inductive ShapeError where
  | notATable
  | notASequence
  | notANumber
  | notASwitch
  deriving DecidableEq, Repr

/-- Set the value under a key. A key that is there keeps its place. -/
def setEntry (entries : List (String × Value)) (key : String) (value : Value) :
    List (String × Value) :=
  match entries with
  | [] => [(key, value)]
  | (k, old) :: rest =>
    if k = key then (k, value) :: rest else (k, old) :: setEntry rest key value

namespace Value

/-- A table from entries in writing order, of which a later one replaces an earlier one. -/
def ofEntries (entries : List (String × Value)) : Value :=
  .table (entries.foldl (fun table entry => setEntry table entry.1 entry.2) [])

/-- Whether a value counts as left out: nothing, off, zero, and whatever is empty. -/
def isVacant : Value → Bool
  | .nothing => true
  | .switch on => !on
  | .integer n => n = 0
  | .decimal x => x.value? = some 0
  | .text s => s.isEmpty
  | .list items => items.isEmpty
  | .table entries => entries.isEmpty

/-- The entries of a table. -/
def entries : Value → Except ShapeError (List (String × Value))
  | .table entries => .ok entries
  | _ => .error .notATable

/-- The elements of a value, one after the other: the items of a list, the keys of a table, the
characters of a text. -/
def elements : Value → Except ShapeError (List Value)
  | .list items => .ok items
  | .table entries => .ok (entries.map fun entry => .text entry.1)
  | .text s => .ok (s.toList.map fun c => .text (String.ofList [c]))
  | _ => .error .notASequence

mutual

/-- A value as it is written inside of others. -/
def shown : Value → String
  | .nothing => "None"
  | .switch on => if on then "True" else "False"
  | .integer n => toString n
  | .decimal x => x.text
  | .text s => Text.quoted s
  | .list items => "[" ++ ", ".intercalate (shownItems items) ++ "]"
  | .table entries => "\x7b" ++ ", ".intercalate (shownEntries entries) ++ "\x7d"

/-- Values as they are written inside of others. -/
def shownItems : List Value → List String
  | [] => []
  | v :: rest => shown v :: shownItems rest

/-- Entries as they are written inside of a table. -/
def shownEntries : List (String × Value) → List String
  | [] => []
  | (key, v) :: rest => (Text.quoted key ++ ": " ++ shown v) :: shownEntries rest

end

/-- A value as text: a text stands for itself. -/
def asText : Value → String
  | .text s => s
  | v => v.shown

end Value

end DocGraph
