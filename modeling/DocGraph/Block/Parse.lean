import DocGraph.Text.FileText
import DocGraph.Block.Location
import DocGraph.Block.Reader

/-!
# Reading a block

From the text of a block to its triples. Lines are read one after the other: blank lines and
comments are passed over, declarations of prefixes go into the table, and the tokens of all
other lines are put together. A declaration counts for the whole block, wherever it stands.
`LineTaken` lists what may become of a line.
-/

set_option autoImplicit false

namespace DocGraph.Block

/-- What the lines of a block hold: the prefixes that are declared, and the tokens, newest
first. -/
structure Lexed where
  prefixes : PrefixTable
  tokens : List Token

/-- Nothing but the standard prefixes. -/
def Lexed.empty : Lexed :=
  ⟨.standard, []⟩

/-- Take in one line, trimmed, with its number. -/
def Lexed.addLine (acc : Lexed) (number : Int) (line : List Char) : Except Failure Lexed :=
  if line.isEmpty || line.head? = some '#' then .ok acc
  else if prefixWord.toList.isPrefixOf line then
    match declaration? line with
    | some binding => .ok { acc with prefixes := binding :: acc.prefixes }
    | none => .error (.grammar ⟨.malformedPrefix (String.ofList line), some number⟩)
  else
    match lexemes line with
    | .ok found =>
      .ok { acc with tokens := (found.map (Token.mk · number)).reverse ++ acc.tokens }
    | .error (some fault) => .error (.grammar ⟨fault, some number⟩)
    | .error none => .error (.stalled number)

/-- What a line, trimmed, with its number makes of what was taken in before. -/
inductive LineTaken (acc : Lexed) (number : Int) (line : List Char) : Except Failure Lexed → Prop
  | pass (passed : (line.isEmpty || line.head? = some '#') = true) :
      LineTaken acc number line (.ok acc)
  | declaration {binding : String × String}
      (counts : (line.isEmpty || line.head? = some '#') = false)
      (begins : prefixWord.toList.isPrefixOf line = true)
      (declares : declaration? line = some binding) :
      LineTaken acc number line (.ok { acc with prefixes := binding :: acc.prefixes })
  | malformed (counts : (line.isEmpty || line.head? = some '#') = false)
      (begins : prefixWord.toList.isPrefixOf line = true) (missing : declaration? line = none) :
      LineTaken acc number line
        (.error (.grammar ⟨.malformedPrefix (String.ofList line), some number⟩))
  | tokens {found : List Lexeme} (counts : (line.isEmpty || line.head? = some '#') = false)
      (plain : prefixWord.toList.isPrefixOf line = false) (read : lexemes line = .ok found) :
      LineTaken acc number line
        (.ok { acc with tokens := (found.map (Token.mk · number)).reverse ++ acc.tokens })
  | fault {fault : Fault} (counts : (line.isEmpty || line.head? = some '#') = false)
      (plain : prefixWord.toList.isPrefixOf line = false)
      (read : lexemes line = .error (some fault)) :
      LineTaken acc number line (.error (.grammar ⟨fault, some number⟩))
  | stall (counts : (line.isEmpty || line.head? = some '#') = false)
      (plain : prefixWord.toList.isPrefixOf line = false) (read : lexemes line = .error none) :
      LineTaken acc number line (.error (.stalled number))

variable {acc : Lexed} {number : Int} {line : List Char} {result : Except Failure Lexed}

/-- What is taken from a line is what `addLine` gives. -/
theorem LineTaken.addLine_eq (h : LineTaken acc number line result) :
    acc.addLine number line = result := by
  unfold Lexed.addLine
  cases h with
  | pass passed =>
    rw [passed]
    rfl
  | declaration counts begins read | malformed counts begins read | tokens counts begins read
  | fault counts begins read | stall counts begins read =>
    rw [counts, begins, read]
    rfl

/-- Nothing else becomes of a line. -/
theorem lineTaken_of_addLine (h : acc.addLine number line = result) :
    LineTaken acc number line result := by
  subst h
  unfold Lexed.addLine
  split
  next passed => exact .pass passed
  next statement =>
    have counts := eq_false_of_ne_true statement
    split
    next begins =>
      split
      next binding declares => exact .declaration counts begins declares
      next missing => exact .malformed counts begins missing
    next other =>
      have plain := eq_false_of_ne_true other
      split
      next found read => exact .tokens counts plain read
      next fault read => exact .fault counts plain read
      next read => exact .stall counts plain read

/-- Take in lines, the first of which has the given number. -/
def Lexed.addLines (acc : Lexed) (number : Int) : List (List Char) → Except Failure Lexed
  | [] => .ok acc
  | line :: rest =>
    match acc.addLine number (Text.trim line) with
    | .ok next => next.addLines (number + 1) rest
    | .error e => .error e

/-- The first line is taken in before the others, which come one number later. -/
theorem Lexed.addLines_cons (acc : Lexed) (number : Int) (line : List Char)
    (rest : List (List Char)) :
    acc.addLines number (line :: rest) =
      acc.addLine number (Text.trim line) >>= fun next => next.addLines (number + 1) rest := by
  rw [addLines]
  cases acc.addLine number (Text.trim line) <;> rfl

/-- The triples of a block whose first line has the given number. -/
def parse (block : String) (firstLine : Int) : Except Failure (List Triple) := do
  let lexed ← Lexed.empty.addLines firstLine (Text.lines block.toList)
  (statements lexed.prefixes lexed.tokens.reverse).mapError .grammar

/-- The triples of the block of a text; a text without a block has none. -/
def parseDocument (content : String) : Except Failure (List Triple) := do
  match ← (locate content).mapError Failure.grammar with
  | none => return []
  | some block => parse block.text block.line

/-- The triples of the block of a file. -/
def parseBytes (bytes : List UInt8) : Except Failure (List Triple) :=
  parseDocument (Text.ofFile bytes)

end DocGraph.Block
