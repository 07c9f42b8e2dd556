import DocGraph.CommandLine.Color

/-!
# Styles

How a text is shown, written as words with blanks between them: attributes, perhaps behind a word
that denies them, a color, a color behind the text, and a link. Of several colors the last one
counts. Styles with the same effect have the same normal form.
-/

set_option autoImplicit false

namespace DocGraph

/-- A style. -/
structure Style where
  /-- The attributes that are set, newest first, and whether they are on. -/
  attributes : List (String × Bool) := []
  color : Option String := none
  background : Option String := none
  link : Option String := none
  deriving DecidableEq, Repr

namespace Style

/-- The attributes, in the order in which they are written, with their short names. -/
def attributeNames : List (String × List String) :=
  [("bold", ["b"]), ("dim", ["d"]), ("italic", ["i"]), ("underline", ["u"]), ("blink", []),
    ("blink2", []), ("reverse", ["r"]), ("conceal", ["c"]), ("strike", ["s"]),
    ("underline2", ["uu"]), ("frame", []), ("encircle", []), ("overline", ["o"])]

/-- The attribute of a name. -/
def attribute? (name : String) : Option String :=
  (attributeNames.find? fun entry => name = entry.1 || name ∈ entry.2).map Prod.fst

/-- Switch an attribute on or off. -/
def set (s : Style) (name : String) (on : Bool) : Style :=
  { s with attributes := (name, on) :: s.attributes }

/-- Read words behind those that make a style. -/
def read (s : Style) : List String → Except StyleError Style
  | [] => .ok s
  | word :: rest =>
    match Text.lower word, rest with
    | "on", color :: rest =>
      (Color.read color).bind fun found => read { s with background := some found } rest
    | "not", name :: rest =>
      match attribute? name with
      | some found => read (s.set found false) rest
      | none => .error .malformed
    | "link", address :: rest => read { s with link := some address } rest
    | word, rest =>
      match attribute? word with
      | some found => read (s.set found true) rest
      | none => (Color.read word).bind fun found => read { s with color := some found } rest

/-- The words of a style. -/
def words (s : Style) : List String :=
  (attributeNames.filterMap fun entry =>
    (s.attributes.lookup entry.1).map fun on => if on then entry.1 else "not " ++ entry.1) ++
    s.color.toList ++ (s.background.map ("on " ++ ·)).toList ++
    (s.link.map ("link " ++ ·)).toList

/-- A style as text. -/
def text (s : Style) : String :=
  if s.words.isEmpty then "none" else " ".intercalate s.words

/-- The normal form of the text of a style. What is no style is only put in lower case. -/
def normalText (style : List Char) : Except NumberError String :=
  let bare := String.ofList (Text.trim style)
  if bare = "none" then .ok bare
  else
    match ({} : Style).read ((Text.words style).map String.ofList) with
    | .ok s => .ok s.text
    | .error .malformed => .ok (Text.lower bare)
    | .error (.number e) => .error e

end Style

end DocGraph
