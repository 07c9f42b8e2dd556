import DocGraph.CommandLine.EmojiNames
import DocGraph.Text.Blank
import DocGraph.Text.LowerCase

/-!
# Emoji in texts

A name between colons, without blanks, stands for an emoji, whatever its case. A dash and a word
at its end ask for the emoji in color, or for the plain sign. Names are looked for from left to
right: one that is not known stays as it is, with both of its colons.
-/

set_option autoImplicit false

namespace DocGraph.Emoji

/-- The words that choose how an emoji is shown, and the characters that do so behind it. -/
def variants : List (List Char × Char) :=
  [("-emoji".toList, '\ufe0f'), ("-text".toList, '\ufe0e')]

/-- A name without the word for a variant at its end, and the character of that variant. -/
def variantOf (name : List Char) : List Char × List Char :=
  match variants.find? fun variant => variant.1.isSuffixOf name with
  | some (word, mark) => (name.take (name.length - word.length), [mark])
  | none => (name, [])

/-- The emoji that a name stands for. -/
def ofName? (name : List Char) : Option (List Char) :=
  let (name, mark) := variantOf name
  (names.lookup (Text.lower (String.ofList name))).map fun emoji => emoji.toList ++ mark

/-- What is shown for a name between colons. -/
def shown (name : List Char) : List Char :=
  (ofName? name).getD (':' :: name ++ [':'])

/-- A text with its emoji, given what has been read of a name behind a colon, newest first. -/
def replaceFrom : Option (List Char) → List Char → List Char
  | none, [] => []
  | some name, [] => ':' :: name.reverse
  | none, c :: rest =>
    if c = ':' then replaceFrom (some []) rest else c :: replaceFrom none rest
  | some name, c :: rest =>
    if c = ':' then shown name.reverse ++ replaceFrom none rest
    else if Text.isBlank c then ':' :: name.reverse ++ c :: replaceFrom none rest
    else replaceFrom (some (c :: name)) rest

/-- A text with its emoji. -/
def replace (s : List Char) : List Char :=
  replaceFrom none s

end DocGraph.Emoji
