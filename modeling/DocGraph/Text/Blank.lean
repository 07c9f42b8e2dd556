import DocGraph.Text.CodeRange

/-!
# Blanks

The characters that separate words, and trimming them off the ends of a text. They are the
white space of Unicode together with the four information separators of ASCII. Around numbers
only white space proper is trimmed.
-/

set_option autoImplicit false

namespace DocGraph.Text

/-- The ranges of blank characters. -/
def blankRanges : List CodeRange :=
  [⟨0x9, 0xD⟩, ⟨0x1C, 0x20⟩, ⟨0x85, 0x85⟩, ⟨0xA0, 0xA0⟩, ⟨0x1680, 0x1680⟩, ⟨0x2000, 0x200A⟩,
    ⟨0x2028, 0x2029⟩, ⟨0x202F, 0x202F⟩, ⟨0x205F, 0x205F⟩, ⟨0x3000, 0x3000⟩]

/-- Whether a character is blank. -/
def isBlank (c : Char) : Bool :=
  inRanges blankRanges c

/-- Drop the blanks at the front. -/
def trimFront (s : List Char) : List Char :=
  s.dropWhile isBlank

/-- Drop the blanks at the back. -/
def trimBack (s : List Char) : List Char :=
  (trimFront s.reverse).reverse

/-- Drop the blanks at both ends. -/
def trim (s : List Char) : List Char :=
  trimBack (trimFront s)

/-- Drop the blanks at both ends of a text. -/
def trimmed (text : String) : String :=
  String.ofList (trim text.toList)

/-- The words of a text, given what has been read of one, newest first. -/
def wordsFrom (word : List Char) : List Char → List (List Char)
  | [] => if word.isEmpty then [] else [word.reverse]
  | c :: rest =>
    if isBlank c then (if word.isEmpty then [] else [word.reverse]) ++ wordsFrom [] rest
    else wordsFrom (c :: word) rest

/-- The words of a text, between which there are blanks. -/
def words (s : List Char) : List (List Char) :=
  wordsFrom [] s

/-- Whether a character is white space, which the information separators are not. -/
def isWhiteSpace (c : Char) : Bool :=
  isBlank c && !(0x1C ≤ c.toNat && c.toNat ≤ 0x1F)

/-- Drop the white space at both ends. -/
def trimWhiteSpace (s : List Char) : List Char :=
  ((s.dropWhile isWhiteSpace).reverse.dropWhile isWhiteSpace).reverse

end DocGraph.Text
