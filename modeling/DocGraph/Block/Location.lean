import DocGraph.Text.Blank
import DocGraph.Text.Occurrence
import DocGraph.Block.GrammarError

/-!
# Where a block stands

Finding the metadata block of a text: what stands between the first start marker and the first
end marker after it, without the blanks at its ends, together with the line it starts on.
-/

set_option autoImplicit false

namespace DocGraph.Block

/-- A block and the number of the line its first character stands on, counted from one. -/
structure Located where
  text : String
  line : Nat
  deriving DecidableEq, Repr

/-- The number of line feeds in a text. -/
def lineFeeds (s : List Char) : Nat :=
  s.count '\n'

/-- The block of a text, if it has one that is not blank. A start marker that no end marker
follows is an error on the line where the marker starts. -/
def locate (content : String) : Except GrammarError (Option Located) :=
  match Text.breakOn startMarker.toList content.toList with
  | none => .ok none
  | some (before, body) =>
    match Text.breakOn endMarker.toList body with
    | none => .error ⟨.blockNotClosed, some (lineFeeds before + 1)⟩
    | some (raw, _) =>
      let block := Text.trim raw
      if block.isEmpty then .ok none
      else
        let lead := raw.takeWhile Text.isBlank
        .ok (some ⟨String.ofList block, lineFeeds before + lineFeeds lead + 1⟩)

end DocGraph.Block
