import DocGraph.CommandLine.ConsoleText
import DocGraph.CommandLine.Literal
import DocGraph.CommandLine.Style
import DocGraph.Text.Alphanumeric

/-!
# Markup

Texts shown on a console may carry tags in square brackets, which set a style and are not shown.
A tag starts with a small letter, a hash sign, a slash or an at sign. One with a slash in front
ends the style of that name, or the last style if it has no name; it is an error if there is
none. Two names are the same if their styles have the same normal form. A backslash before an
opening bracket takes its meaning away.

A name with an at sign in front is no style but tells what a click does: the parameters of the
tag, which stand behind an equals sign, name an action and give its arguments.
-/

set_option autoImplicit false

namespace DocGraph.Markup

/-- What is wrong with a text. -/
inductive MarkupError where
  /-- A tag ends a style that was not begun. -/
  | notOpen (tag : String)
  /-- The parameters of a tag tell no action. -/
  | action (parameters : String)
  /-- A color in a tag should have a number where there is none. -/
  | number (error : NumberError)
  deriving DecidableEq, Repr

/-- A piece of a text with markup. -/
inductive MarkupPiece where
  | text (s : List Char)
  /-- What stands between the brackets of a tag. -/
  | tag (content : List Char)
  deriving DecidableEq, Repr

/-- Whether a tag may start with a character. -/
def startsTag (c : Char) : Bool :=
  ('a' ≤ c && c ≤ 'z') || c = '#' || c = '/' || c = '@'

/-- Whether a character stands inside of a tag. -/
def isInTag (c : Char) : Bool :=
  c != '[' && c != ']'

/-- The tag at the front of a text behind an opening bracket, and what follows it. -/
def tagAt : List Char → Option (List Char × List Char)
  | [] => none
  | c :: rest =>
    if startsTag c then
      match rest.dropWhile isInTag with
      | ']' :: after => some (c :: rest.takeWhile isInTag, after)
      | _ => none
    else none

/-- What follows a tag is shorter than the text. -/
theorem length_lt_of_tagAt {s content after : List Char} (h : tagAt s = some (content, after)) :
    after.length < s.length := by
  cases s with
  | nil => simp [tagAt] at h
  | cons c rest =>
    have hle : (rest.dropWhile isInTag).length ≤ rest.length := by
      have := congrArg List.length (List.takeWhile_append_dropWhile (p := isInTag) (l := rest))
      rw [List.length_append] at this
      omega
    simp only [tagAt] at h
    split at h
    · split at h
      · rename_i heq
        simp only [Option.some.injEq, Prod.mk.injEq] at h
        rw [heq, List.length_cons] at hle
        rw [List.length_cons, ← h.2]
        omega
      · simp at h
    · simp at h

/-- A piece of text, unless it is empty. -/
def textPiece (s : List Char) : List MarkupPiece :=
  if s.isEmpty then [] else [.text s]

/-- Backslashes. -/
def slashes (count : Nat) : List Char :=
  List.replicate count '\\'

/-- The pieces that a tag makes with the backslashes in front of it. Two of them stand for one,
and one that is left makes the tag a text. -/
def tagPieces (escapes : Nat) (content : List Char) : List MarkupPiece :=
  textPiece (slashes (escapes / 2)) ++
    [if escapes % 2 = 1 then .text ('[' :: content ++ [']']) else .tag content]

/-- The pieces of a text, given the text before it that is yet to become a piece, newest first,
and how many backslashes stand between the two. -/
def piecesFrom (passed : List Char) (escapes : Nat) (s : List Char) : List MarkupPiece :=
  match s with
  | [] => textPiece (slashes escapes ++ passed).reverse
  | c :: rest =>
    if c = '\\' then piecesFrom passed (escapes + 1) rest
    else if c = '[' then
      match _h : tagAt rest with
      | some (content, after) =>
        textPiece passed.reverse ++ tagPieces escapes content ++ piecesFrom [] 0 after
      | none => piecesFrom (c :: slashes escapes ++ passed) 0 rest
    else piecesFrom (c :: slashes escapes ++ passed) 0 rest
termination_by s.length
decreasing_by
  · simp
  · have := length_lt_of_tagAt _h
    simp only [List.length_cons]
    omega
  · simp
  · simp

/-- The pieces of a text. -/
def pieces (s : List Char) : List MarkupPiece :=
  piecesFrom [] 0 s

/-- A text without the backslashes before opening brackets, one before each. -/
def unescape : List Char → List Char
  | [] => []
  | '\\' :: '[' :: rest => '[' :: unescape rest
  | c :: rest => c :: unescape rest

/-- A style that is open. -/
structure OpenStyle where
  name : String
  /-- What stands behind the equals sign of its tag, if there is one. -/
  parameters : Option (List Char)
  /-- How many characters stand in front of it. -/
  start : Nat
  deriving DecidableEq, Repr

/-- The words of a style with its parameters. -/
def OpenStyle.words (opened : OpenStyle) : String :=
  match opened.parameters with
  | none => opened.name
  | some parameters => opened.name ++ " " ++ String.ofList parameters

/-- Whether a style is none but tells what a click does. -/
def OpenStyle.isClick (opened : OpenStyle) : Bool :=
  opened.name.toList.head? = some '@'

/-- A part of a text that is shown in a style. -/
structure StyledPart where
  style : String
  start : Nat
  content : List Char
  deriving DecidableEq, Repr

/-- What has been read of a text. -/
structure MarkedText where
  text : List Char := []
  /-- The styles that are open, last first. -/
  opened : List OpenStyle := []
  /-- The parts whose styles were ended, last first. -/
  parts : List StyledPart := []
  deriving DecidableEq, Repr

/-- The name of a tag: what stands before its parameters. -/
def tagName (content : List Char) : List Char :=
  content.takeWhile (· != '=')

/-- The parameters of a tag. -/
def tagParameters? (content : List Char) : Option (List Char) :=
  (content.dropWhile (· != '=')).tail?

/-- Whether parameters tell an action: by its name, by its name with a group of arguments on the
same line, or by arguments alone. -/
def tellAction (parameters : List Char) : Bool :=
  let bare := Text.trim parameters
  let arguments := bare.dropWhile fun c => Text.isWordChar c || c = '.'
  let isGroup :=
    arguments.head? = some '(' && arguments.getLast? = some ')' && !arguments.contains '\n'
  arguments.isEmpty || isLiteral (if isGroup then arguments else bare)

/-- The style that a name ends, of those that are open, last first, and those that stay open. -/
def closed? (name : List Char) (opened : List OpenStyle) :
    Except NumberError (Option (OpenStyle × List OpenStyle)) :=
  if (Text.trim name).isEmpty then .ok (opened.head?.map (·, opened.tail))
  else
    (Style.normalText (Text.trim name)).map fun style =>
      (opened.find? (·.name = style)).map (·, opened.eraseP (·.name = style))

namespace MarkedText

/-- A text without styles. -/
def plain (text : String) : MarkedText :=
  { text := text.toList }

/-- The part behind the start of a style. -/
def part (t : MarkedText) (opened : OpenStyle) : StyledPart :=
  ⟨opened.words, opened.start, t.text.drop opened.start⟩

/-- End a style. One that tells what a click does has to tell an action. -/
def close (t : MarkedText) (ended : OpenStyle) (left : List OpenStyle) :
    Except MarkupError MarkedText :=
  let parameters := ended.parameters.getD []
  if !ended.isClick then .ok { t with opened := left, parts := t.part ended :: t.parts }
  else if tellAction parameters then .ok { t with opened := left }
  else .error (.action (String.ofList parameters))

/-- Follow a tag. -/
def follow (t : MarkedText) (content : List Char) : Except MarkupError MarkedText :=
  match tagName content with
  | '/' :: name => do
    match ← (closed? name t.opened).mapError .number with
    | some (ended, left) => t.close ended left
    | none => throw (.notOpen (String.ofList content))
  | name => do
    let style ← (Style.normalText name).mapError .number
    return { t with opened := ⟨style, tagParameters? content, t.text.length⟩ :: t.opened }

/-- Read a piece. -/
def add (t : MarkedText) : MarkupPiece → Except MarkupError MarkedText
  | .text s => .ok { t with text := t.text ++ ConsoleText.withEmoji (unescape s) }
  | .tag content => t.follow content

/-- Read a text with markup. -/
def read (text : String) : Except MarkupError MarkedText :=
  (pieces text.toList).foldlM add {}

/-- All parts in the order in which they start. Of those that start together, the ones that were
ended last come first, and before them those that were not ended. -/
def allParts (t : MarkedText) : List StyledPart :=
  (t.opened.reverse.map t.part ++ t.parts).mergeSort fun a b => a.start ≤ b.start

/-- The parts whose styles count. In a text of several lines, a part without characters on any
line does not. -/
def shownParts (t : MarkedText) : List StyledPart :=
  if t.text.contains '\n' then t.allParts.filter (·.content.any (· ≠ '\n')) else t.allParts

/-- Show a text in its styles. -/
def shown (t : MarkedText) : Except MarkupError String :=
  (t.shownParts.forM fun part =>
    ((Style.normalText part.style.toList).mapError .number).map fun _ => ()).map
      fun _ => String.ofList t.text

end MarkedText

end DocGraph.Markup
