import DocGraph.Text.Occurrence

/-!
# Paths

Paths with slashes, read without looking at any file. A `Path` is kept as the number of slashes
it starts with and its parts: repeated slashes and parts that are a single dot disappear, two
dots stay. Exactly two leading slashes are kept apart from one; three or more count as one.

Besides that there is the normal form of a path text, in which two dots take away the part
before them, and the directory of a path text.
-/

set_option autoImplicit false

namespace DocGraph

/-- A path: how many slashes it starts with, which are none, one or two, and its parts. -/
structure Path where
  slashes : Nat
  parts : List String
  deriving DecidableEq, Repr

/-- How many slashes a text counts as starting with. -/
def leadingSlashes (s : List Char) : Nat :=
  match (s.takeWhile (· = '/')).length with
  | 0 => 0
  | 2 => 2
  | _ => 1

/-- The texts between the slashes of a path. -/
def segments (s : List Char) : List String :=
  (Text.splitOn '/' s).map String.ofList

namespace Path

/-- Read a path. -/
def ofString (text : String) : Path :=
  let s := text.toList
  ⟨leadingSlashes s, (segments s).filter fun part => part ≠ "" && part ≠ "."⟩

/-- Read a path, keeping empty parts and single dots, which ask for a directory to be there. -/
def verbatim (text : String) : Path :=
  let s := text.toList
  ⟨leadingSlashes s, segments s⟩

/-- Write a path; the empty one is a single dot. -/
def toString (p : Path) : String :=
  if p.slashes = 0 && p.parts.isEmpty then "."
  else String.ofList (List.replicate p.slashes '/') ++ "/".intercalate p.parts

/-- A path taken from another: one that starts with a slash stands for itself. -/
def join (base p : Path) : Path :=
  if p.slashes = 0 then ⟨base.slashes, base.parts ++ p.parts⟩ else p

/-- Add a part at the end. -/
def child (p : Path) (name : String) : Path :=
  ⟨p.slashes, p.parts ++ [name]⟩

/-- The last part, or nothing. -/
def name (p : Path) : String :=
  p.parts.getLast?.getD ""

/-- What a path is relative to another that it lies below. -/
def relativeTo? (p base : Path) : Option Path :=
  if p.slashes = base.slashes then
    (base.parts.isPrefixOf? p.parts).map fun rest => ⟨0, rest⟩
  else none

/-- A path relative to another if it lies below that, and itself otherwise, as text. -/
def relativeText (p base : Path) : String :=
  ((p.relativeTo? base).getD p).toString

/-- The ending of the last part from its last dot, unless the dot is its first or last
character. -/
def extension (p : Path) : String :=
  let name := p.name.toList
  let ending := (name.reverse.takeWhile (· != '.')).reverse
  if ending.isEmpty || ending.length + 1 ≥ name.length then ""
  else String.ofList ('.' :: ending)

end Path

/-- Drop the slashes at the end. -/
def dropTrailingSlashes (s : List Char) : List Char :=
  (s.reverse.dropWhile (· = '/')).reverse

/-- The directory of a path text: what comes before its last slash, without the slashes at the
end unless it is made of slashes only. -/
def directoryOf (text : String) : String :=
  let head := (text.toList.reverse.dropWhile (· != '/')).reverse
  let bare := dropTrailingSlashes head
  String.ofList (if bare.isEmpty then head else bare)

/-- Put a path text behind a directory: one that starts with a slash stands for itself. -/
def joinTexts (directory text : String) : String :=
  if text.toList.head? = some '/' then text
  else if directory.isEmpty || directory.toList.getLast? = some '/' then directory ++ text
  else directory ++ "/" ++ text

/-- Take a part into a normal path, whose parts are kept last first: two dots take the part
before them away, but stay where there is none, except at the root. -/
def normalStep (rooted : Bool) (parts : List String) (part : String) : List String :=
  if part = "" || part = "." then parts
  else if part ≠ ".." then part :: parts
  else
    match parts with
    | [] => if rooted then [] else [part]
    | last :: rest => if last = ".." then part :: parts else rest

/-- The normal form of a path text. -/
def normalText (text : String) : String :=
  let s := text.toList
  let slashes := leadingSlashes s
  let parts := (segments s).foldl (normalStep (slashes ≠ 0)) []
  (Path.mk slashes parts.reverse).toString

end DocGraph
