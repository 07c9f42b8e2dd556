/-!
# Similar words

How much two words have in common, and which of several words are close to one that was typed.
The longest block that two words share is matched first, then what stands to the left of it on
both sides, and what stands to the right. Of blocks as long the leftmost counts.

Words are close if twice the matched characters are at least three fifths of the characters of
both. Words of very different lengths cannot be, since no more characters are matched than the
shorter one has.
-/

set_option autoImplicit false

namespace DocGraph.Text

/-- The number of characters that two texts have in common at their starts. -/
def commonStart : List Char → List Char → Nat
  | a :: s, b :: t => if a = b then commonStart s t + 1 else 0
  | _, _ => 0

/-- A block of characters that two texts share: where it starts in each, and how long it is. -/
structure SharedBlock where
  left : Nat := 0
  right : Nat := 0
  length : Nat := 0
  deriving DecidableEq, Repr

namespace SharedBlock

/-- The longer of two blocks, of two as long the first. -/
def longer (b c : SharedBlock) : SharedBlock :=
  if b.length < c.length then c else b

/-- The longest block that two texts share. -/
def longest (s t : List Char) : SharedBlock :=
  ((List.range s.length).flatMap fun i =>
    (List.range t.length).map fun j => ⟨i, j, commonStart (s.drop i) (t.drop j)⟩).foldl longer {}

end SharedBlock

/-- The number of characters that are matched in two texts. -/
def matched (s t : List Char) : Nat :=
  let block := SharedBlock.longest s t
  if _ : block.length = 0 ∨ s.length ≤ block.left then 0
  else
    matched (s.take block.left) (t.take block.right) + block.length +
      matched (s.drop (block.left + block.length)) (t.drop (block.right + block.length))
termination_by s.length
decreasing_by
  all_goals
    subst block
    simp only [List.length_take, List.length_drop]
    omega

/-- How similar two texts are, from zero to one: twice the matched characters in all characters. -/
def similarity (s t : List Char) : Rat :=
  mkRat (2 * matched s t) (s.length + t.length)

/-- How similar two words have to be to be close. -/
def closeness : Rat := mkRat 3 5

/-- Whether two words could be close as far as their lengths go. -/
def fitsInLength (s t : List Char) : Bool :=
  closeness ≤ mkRat (2 * min s.length t.length) (s.length + t.length)

/-- Whether one word comes before another among those close to a third: it is more similar, or
as similar and later in the alphabet. -/
def isCloser (a b : Rat × String) : Bool :=
  b.1 < a.1 || (a.1 = b.1 && b.2 ≤ a.2)

/-- The three of several words, in alphabetic order, that are closest to a word, if they are
close at all. -/
def closest (word : String) (words : List String) : List String :=
  let fitting := words.filter fun w => fitsInLength w.toList word.toList
  let scored := fitting.map fun w => (similarity w.toList word.toList, w)
  let close := (scored.filter fun entry => closeness ≤ entry.1).mergeSort isCloser
  ((close.take 3).map Prod.snd).mergeSort fun a b => !(b < a)

end DocGraph.Text
