import DocGraph.Text.Lines
import DocGraph.Text.Utf8

/-!
# The text of a file

Bytes are read as UTF-8, and each line break that is written as a carriage return, alone or
before a line feed, becomes a line feed. Every sequence of bytes has a text.
-/

set_option autoImplicit false

namespace DocGraph.Text

/-- The text of a file, given its bytes. -/
def ofFile (bytes : List UInt8) : String :=
  String.ofList (unifyBreaks (decode bytes))

end DocGraph.Text
