import DocGraph.Text.Quoted

/-!
# Grammar errors

What can be wrong with a metadata block, where it was found, and the words for it.
-/

set_option autoImplicit false

namespace DocGraph.Block

/-- The line that opens a block. -/
def startMarker : String := "<!-- LinkedDoc RDF -->"

/-- The line that closes a block. -/
def endMarker : String := "<!-- End LinkedDoc RDF -->"

/-- What is wrong with a block. -/
inductive Fault where
  /-- The start marker has no end marker after it. -/
  | blockNotClosed
  /-- A line that declares a prefix is not well formed. -/
  | malformedPrefix (line : String)
  /-- A reference is not closed on its line. -/
  | unterminatedUri
  /-- A quoted text is not closed on its line. -/
  | unterminatedString
  /-- The block ends where a token is needed. -/
  | unexpectedEnd
  /-- Something else stands where a statement should end. -/
  | statementNotEnded (found : String)
  /-- A blank node stands where a subject should. -/
  | blankSubject
  /-- Something that is no subject stands where one should. -/
  | notASubject (found : String)
  /-- Something that is no predicate stands where one should. -/
  | notAPredicate (found : String)
  /-- Something that is no object stands where one should. -/
  | notAnObject (found : String)
  /-- A blank node is not closed. -/
  | nodeNotClosed
  deriving DecidableEq, Repr

/-- The words for a fault. -/
def Fault.message : Fault → String
  | .blockNotClosed => "LinkedDoc block not closed (missing " ++ endMarker ++ ")"
  | .malformedPrefix line => "invalid @prefix syntax: " ++ line
  | .unterminatedUri => "unterminated URI reference"
  | .unterminatedString => "unterminated string literal"
  | .unexpectedEnd => "unexpected end of block"
  | .statementNotEnded found => "expected '.' to end statement, found " ++ Text.quoted found
  | .blankSubject => "blank node subjects are not supported"
  | .notASubject found => "expected subject, found " ++ Text.quoted found
  | .notAPredicate found => "expected predicate, found " ++ Text.quoted found
  | .notAnObject found => "expected object, found " ++ Text.quoted found
  | .nodeNotClosed => "blank node not closed (missing ']')"

/-- A fault and the line it was found on, where there is one. -/
structure GrammarError where
  fault : Fault
  line : Option Int
  deriving DecidableEq, Repr

/-- A line number as messages show it; line zero counts as no line. -/
def shownLine (line : Option Int) : Option Int :=
  line.filter (· ≠ 0)

/-- The words for an error on a line, given the words for what is wrong. -/
def messageAt (line : Option Int) (words : String) : String :=
  match shownLine line with
  | some n => "parse error at line " ++ toString n ++ ": " ++ words
  | none => "parse error: " ++ words

/-- The words for a grammar error. -/
def GrammarError.message (e : GrammarError) : String :=
  messageAt e.line e.fault.message

/-- Why a block yields no triples. -/
inductive Failure where
  /-- The block is not in the language. -/
  | grammar (error : GrammarError)
  /-- A closing angle bracket stands where a token should start, on which the reading of the
  line makes no progress and never ends. -/
  | stalled (line : Int)
  deriving DecidableEq, Repr

end DocGraph.Block
