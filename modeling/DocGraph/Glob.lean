import DocGraph.Text.Blank
import DocGraph.Text.Occurrence

/-!
# Globs

Patterns for paths. Between slashes, a star stands for any characters, a question mark for one,
and brackets for one of a set; a part that is two stars stands for any number of directories. A
pattern without a slash matches at any depth, and what matches a directory matches everything
below it.

A pattern is compiled to pieces, and a path matches if the pieces can be laid out one after the
other from its start. Compiling fails on a set with a reversed range; a pattern that is broken
in another way compiles, but never matches.
-/

set_option autoImplicit false

namespace DocGraph

/-- A range of characters in a set; a single character is a range of its own. -/
structure ClassRange where
  low : Char
  high : Char
  deriving DecidableEq, Repr

/-- Whether a range holds a character. -/
def ClassRange.holds (r : ClassRange) (c : Char) : Bool :=
  r.low ≤ c && c ≤ r.high

/-- A piece of a compiled pattern. -/
inductive Piece where
  /-- This character. -/
  | char (c : Char)
  /-- Any character but a slash. -/
  | anyChar
  /-- Any characters but slashes. -/
  | star
  /-- A character of a set, or one that is not in it. -/
  | oneOf (negated : Bool) (ranges : List ClassRange)
  /-- Any directories and a slash, or nothing. -/
  | leading
  /-- A slash and any directories, or nothing. -/
  | inner
  /-- A slash, or the end. -/
  | boundary
  deriving DecidableEq, Repr

/-- Everything that can be left of a text after some of its first characters, none of which
fails the test, the longest first. -/
def dropSome (p : Char → Bool) : List Char → List (List Char)
  | [] => [[]]
  | c :: rest => (c :: rest) :: if p c then dropSome p rest else []

/-- Everything that can be left after a slash that is not the first character and that no line
feed comes before. -/
def afterDirectories (s : List Char) : List (List Char) :=
  match s with
  | [] => []
  | c :: rest =>
    if c = '\n' then []
    else
      (dropSome (· != '\n') rest).filterMap fun
        | '/' :: after => some after
        | _ => none

/-- Everything that can be left of a text after a piece at its front. -/
def Piece.rests (p : Piece) (s : List Char) : List (List Char) :=
  match p, s with
  | .char c, x :: rest => if x = c then [rest] else []
  | .anyChar, x :: rest => if x = '/' then [] else [rest]
  | .oneOf negated ranges, x :: rest =>
    if (ranges.any fun r => r.holds x) != negated then [rest] else []
  | .star, s => dropSome (· != '/') s
  | .leading, s => s :: afterDirectories s
  | .inner, '/' :: rest =>
    ('/' :: rest) ::
      match rest with
      | [] => []
      | c :: more => if c = '\n' then [] else dropSome (· != '\n') more
  | .inner, s => [s]
  | .boundary, '/' :: rest => [rest]
  | .boundary, [] => [[]]
  | .boundary, ['\n'] => [['\n']]
  | _, _ => []

/-- Whether pieces can be laid out from the start of a text. -/
def layOut : List Piece → List Char → Bool
  | [], _ => true
  | p :: rest, s => (p.rests s).any (layOut rest)

/-- A compiled pattern. -/
inductive Glob where
  /-- Matches nothing. -/
  | never
  /-- Matches every path with a character other than a line feed. -/
  | something
  /-- Matches every path with a slash. -/
  | nested
  /-- Matches the paths from whose start the pieces can be laid out. -/
  | pieces (ps : List Piece)
  deriving DecidableEq, Repr

/-- A set has a range whose ends are in the wrong order. -/
inductive GlobError where
  | reversedRange
  deriving DecidableEq, Repr

/-- What a glob asks for between two slashes. -/
inductive GlobPart where
  /-- Any number of directories. -/
  | directories
  /-- A single name that is not empty. -/
  | name
  /-- A name of the given form. -/
  | form (text : List Char)
  deriving DecidableEq, Repr

/-- Read a part of a pattern. -/
def GlobPart.ofText (text : List Char) : GlobPart :=
  if text = ['*', '*'] then .directories else if text = ['*'] then .name else .form text

/-- The ranges of a set. A dash between two characters makes a range of them; elsewhere it is a
character like all others. -/
def classRanges : List Char → List ClassRange
  | low :: '-' :: high :: rest => ⟨low, high⟩ :: classRanges rest
  | c :: rest => ⟨c, c⟩ :: classRanges rest
  | [] => []

/-- Take a closing bracket off the front of a set, where it is part of the content. -/
def leadingBracket : List Char → List Char × List Char
  | ']' :: rest => ([']'], rest)
  | s => ([], s)

/-- The content of a set and what comes after its closing bracket. -/
def classContent? (s : List Char) : Option (List Char × List Char) :=
  let (first, rest) := leadingBracket s
  match rest.dropWhile (· != ']') with
  | [] => none
  | _ :: after => some (first ++ rest.takeWhile (· != ']'), after)

/-- A bracket that leads a class is taken off, or nothing is. -/
theorem length_leadingBracket_le (s : List Char) : (leadingBracket s).2.length ≤ s.length := by
  unfold leadingBracket
  split <;> simp

/-- The content of a class takes off at least the bracket that closes it. -/
theorem length_classContent_lt {s content after : List Char}
    (h : classContent? s = some (content, after)) : after.length < s.length := by
  have h1 := length_leadingBracket_le s
  have h2 := (List.dropWhile_suffix (· != ']') (l := (leadingBracket s).2)).length_le
  unfold classContent? at h
  dsimp only at h
  split at h
  · simp at h
  · rename_i x after' hd
    simp only [Option.some.injEq, Prod.mk.injEq] at h
    rw [hd, List.length_cons] at h2
    rw [← h.2]
    omega

/-- Take the mark of a negated set off its front. -/
def classNegation : List Char → Bool × List Char
  | '!' :: rest => (true, rest)
  | '^' :: rest => (true, rest)
  | s => (false, s)

/-- The sign of a negated class is taken off, or nothing is. -/
theorem length_classNegation_le (s : List Char) : (classNegation s).2.length ≤ s.length := by
  unfold classNegation
  split <;> simp

/-- The pieces of a form. There are none if a set is not closed or a backslash has nothing
after it. -/
def formPieces : List Char → Option (List Piece)
  | [] => some []
  | '\\' :: c :: rest => (formPieces rest).map (.char c :: ·)
  | '\\' :: [] => none
  | '*' :: rest => (formPieces rest).map (.star :: ·)
  | '?' :: rest => (formPieces rest).map (.anyChar :: ·)
  | '[' :: rest =>
    match _h : classContent? (classNegation rest).2 with
    | some (content, after) =>
      (formPieces after).map (.oneOf (classNegation rest).1 (classRanges content) :: ·)
    | none => none
  | c :: rest => (formPieces rest).map (.char c :: ·)
termination_by s => s.length
decreasing_by
  all_goals simp only [List.length_cons]
  any_goals omega
  have h1 := length_classContent_lt _h
  have h2 := length_classNegation_le rest
  omega

/-- The pieces of the parts of a pattern. `first` tells that no part came before, and `slash`
that a slash has to come before the next name. -/
def partPieces (first slash : Bool) : List GlobPart → Option (List Piece)
  | [] => some []
  | .directories :: rest =>
    if rest.isEmpty then some [.char '/']
    else if first then (partPieces false false rest).map (.leading :: ·)
    else (partPieces false true rest).map (.inner :: ·)
  | .name :: rest => do
    let tail ← partPieces false true rest
    let ending := if rest.isEmpty then [Piece.boundary] else []
    return (if slash then [.char '/'] else []) ++ [.anyChar, .star] ++ ending ++ tail
  | .form text :: rest => do
    let form ← formPieces text
    let tail ← partPieces false true rest
    let ending := if rest.isEmpty then [Piece.boundary] else []
    return (if slash then [.char '/'] else []) ++ form ++ ending ++ tail

/-- Keep one of several directory parts in a row. -/
def collapse : List GlobPart → List GlobPart
  | .directories :: .directories :: rest => collapse (.directories :: rest)
  | part :: rest => part :: collapse rest
  | [] => []

/-- The parts of a pattern. A leading slash anchors the pattern and disappears; a single name
without one may stand at any depth; a slash at the end stands for everything below. -/
def globParts (pattern : List Char) : List GlobPart :=
  let texts := Text.splitOn '/' pattern
  let texts :=
    match texts with
    | [] :: rest => rest
    | [only] => if only = ['*', '*'] then [only] else [['*', '*'], only]
    | [only, []] => if only = ['*', '*'] then [only, []] else [['*', '*'], only, []]
    | several => several
  let texts := if texts.getLast? = some [] then texts.dropLast ++ [['*', '*']] else texts
  collapse (texts.map .ofText)

/-- Whether a piece is a set with a reversed range. -/
def Piece.isReversed : Piece → Bool
  | .oneOf _ ranges => ranges.any fun r => r.high < r.low
  | _ => false

/-- Compile the part of a pattern after a possible exclamation mark. -/
def compileBody (body : List Char) : Except GlobError Glob :=
  match globParts body with
  | [] => .ok .never
  | [.directories] => .ok (if body.getLast? = some '/' then .nested else .something)
  | [.directories, .name] => .ok .something
  | [.directories, .name, .directories] => .ok .nested
  | parts =>
    match partPieces true false parts with
    | none => .ok .never
    | some ps => if ps.any Piece.isReversed then .error .reversedRange else .ok (.pieces ps)

/-- The pattern without the blanks at its end, unless it ends in a backslash and a space. -/
def trimPattern (pattern : List Char) : List Char :=
  if ['\\', ' '].isSuffixOf pattern then pattern else Text.trimBack pattern

namespace Glob

/-- Compile a pattern. An empty one, a comment and a slash alone match nothing, and neither
does a pattern that starts with an exclamation mark. -/
def compile (pattern : String) : Except GlobError Glob :=
  match trimPattern pattern.toList with
  | [] => .ok .never
  | ['/'] => .ok .never
  | '#' :: _ => .ok .never
  | '!' :: body => (compileBody body).map fun _ => .never
  | body => compileBody body

/-- The path as globs see it: without slashes at its front, and without one leading dot with
a slash. -/
def normalPath (path : List Char) : List Char :=
  match path.dropWhile (· = '/') with
  | '.' :: '/' :: rest => rest
  | s => s

/-- Whether a path, as globs see it, matches. -/
def matchesNormal (path : List Char) : Glob → Bool
  | .never => false
  | .something => path.any (· != '\n')
  | .nested => path.contains '/'
  | .pieces ps => layOut ps path

/-- Whether a path matches a pattern. -/
def matches? (pattern path : String) : Except GlobError Bool :=
  (compile pattern).map (matchesNormal (normalPath path.toList))

/-- Whether a path matches one of several patterns. They are tried in order, so an error counts
only if no pattern before it matches. -/
def matchesAny? (path : String) : List String → Except GlobError Bool
  | [] => .ok false
  | pattern :: rest =>
    match matches? pattern path with
    | .ok true => .ok true
    | .ok false => matchesAny? path rest
    | .error e => .error e

end Glob

end DocGraph
