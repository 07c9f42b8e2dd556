import DocGraph.Value

/-!
# Values as JSON

Values written as JSON over several lines, two blanks deeper for every level. Characters outside
ASCII are escaped, those beyond sixteen bits as a pair of surrogates.
-/

set_option autoImplicit false

namespace DocGraph

namespace JsonText

/-- A code of sixteen bits as an escape. -/
def escape (code : Nat) : List Char :=
  '\\' :: 'u' :: Text.hexDigits 4 code

/-- A character inside of a string. -/
def stringChar (c : Char) : List Char :=
  if c = '"' || c = '\\' then ['\\', c]
  else if c = '\n' then ['\\', 'n']
  else if c = '\r' then ['\\', 'r']
  else if c = '\t' then ['\\', 't']
  else if c = '\x08' then ['\\', 'b']
  else if c = '\x0c' then ['\\', 'f']
  else if 0x20 ≤ c.toNat && c.toNat < 0x80 then [c]
  else if c.toNat < 0x10000 then escape c.toNat
  else
    let rest := c.toNat - 0x10000
    escape (0xD800 + rest / 0x400) ++ escape (0xDC00 + rest % 0x400)

/-- A text as a string. -/
def string (text : String) : String :=
  String.ofList ('"' :: text.toList.flatMap stringChar ++ ['"'])

/-- The start of a line at a depth. -/
def newLine (depth : Nat) : String :=
  "\n" ++ String.ofList (List.replicate (2 * depth) ' ')

/-- Parts between brackets, each on a line of its own. -/
def enclosed (left right : String) (depth : Nat) (parts : List String) : String :=
  if parts.isEmpty then left ++ right
  else
    left ++ newLine (depth + 1) ++ ("," ++ newLine (depth + 1)).intercalate parts ++
      newLine depth ++ right

/-- A number with a point. There are words for those that are not finite. -/
def decimal : Number.Extended → String
  | .infinite negative => if negative then "-Infinity" else "Infinity"
  | .undefined => "NaN"
  | x => x.text

mutual

/-- A value at a depth. -/
def write (depth : Nat) : Value → String
  | .nothing => "null"
  | .switch on => if on then "true" else "false"
  | .integer n => toString n
  | .decimal x => decimal x
  | .text s => string s
  | .list items => enclosed "[" "]" depth (writeItems (depth + 1) items)
  | .table entries => enclosed "\x7b" "\x7d" depth (writeEntries (depth + 1) entries)

/-- The items of a list. -/
def writeItems (depth : Nat) : List Value → List String
  | [] => []
  | v :: rest => write depth v :: writeItems depth rest

/-- The entries of a table. -/
def writeEntries (depth : Nat) : List (String × Value) → List String
  | [] => []
  | (key, v) :: rest => (string key ++ ": " ++ write depth v) :: writeEntries depth rest

end

end JsonText

/-- A value as JSON. -/
def Value.json (v : Value) : String :=
  JsonText.write 0 v

end DocGraph
