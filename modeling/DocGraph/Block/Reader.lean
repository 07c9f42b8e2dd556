import DocGraph.Triple
import DocGraph.Block.PrefixTable

/-!
# From tokens to triples

The grammar of a block. A statement is a subject and a list of groups, ended by a full stop,
which the last statement may lack. A group is a predicate and one or more objects, separated by
commas; groups are separated by one or more semicolons, which may also stand at the end. A blank
node is a list of groups in brackets, and may be empty.

The reading is a machine that takes one token at a time. It remembers what it awaits, the group
list it is reading, and for every blank node that is open the group list around it. Nodes are
numbered in the order in which they are opened.

Blank nodes may be nested as deeply as a block has brackets. A reader that calls itself for every
bracket comes to the limit that its interpreter sets on calls, with some 330 brackets that are open at
once; it is taken here not to be reached.
-/

set_option autoImplicit false

namespace DocGraph.Block

/-- A list of groups that is being read: the subject it is about, and the triples read so far,
newest first. The statements of a block follow one another in the outermost list. -/
structure GroupList where
  subject : String
  triples : List Triple

/-- A blank node that is open: the list around it, the predicate it is an object of there, and
the line of its bracket. -/
structure OpenNode where
  around : GroupList
  predicate : String
  line : Int

/-- What may come next. -/
inductive Awaiting where
  /-- A statement, a stray full stop, or the end of the block. -/
  | statement
  /-- The first predicate of a statement. -/
  | predicate
  /-- An object for a predicate. -/
  | object (predicate : String)
  /-- More objects for the same predicate, another group, or the end of the list. -/
  | more (predicate : String)
  /-- More semicolons, another group, or the end of the list. -/
  | group
  /-- The first group of a blank node, or its end. -/
  | node
  deriving DecidableEq, Repr

/-- The reading of a block between two tokens. -/
structure Reader where
  current : GroupList
  /-- The open blank nodes, innermost first. -/
  enclosing : List OpenNode
  awaiting : Awaiting
  /-- How many blank nodes have been opened. -/
  nodes : Nat

/-- The reading before the first token. -/
def Reader.start : Reader :=
  ⟨⟨"", []⟩, [], .statement, 0⟩

/-- The label of the blank node with a number. -/
def nodeLabel (n : Nat) : String :=
  blankMark ++ "b" ++ toString n

/-- Add a triple about the subject of a list. -/
def GroupList.add (g : GroupList) (predicate : String) (object : Node) : GroupList :=
  { g with triples := .mk g.subject predicate object :: g.triples }

/-- Take a token as a subject. -/
def subjectOf (table : PrefixTable) : Lexeme → Except Fault String
  | .uri text => .ok text
  | .prefixed text => .ok (table.expand text)
  | .openBracket => .error .blankSubject
  | other => .error (.notASubject other.text)

/-- Take a token as a predicate; the word `a` stands for the predicate of types. -/
def predicateOf (table : PrefixTable) : Lexeme → Except Fault String
  | .word "a" => .ok typePredicate
  | .uri text => .ok text
  | .prefixed text => .ok (table.expand text)
  | other => .error (.notAPredicate other.text)

/-- Take a token as an object that is no blank node. -/
def objectOf (table : PrefixTable) : Lexeme → Except Fault Node
  | .uri text => .ok (.uri text)
  | .prefixed text => .ok (.uri (table.expand text))
  | .quoted text => .ok (.literal text)
  | .word text => .ok (.literal text)
  | other => .error (.notAnObject other.text)

namespace Reader

/-- Start a statement. -/
def readSubject (table : PrefixTable) (r : Reader) (t : Lexeme) : Except Fault Reader := do
  let subject ← subjectOf table t
  return { r with current := { r.current with subject }, awaiting := .predicate }

/-- Start a group. -/
def readPredicate (table : PrefixTable) (r : Reader) (t : Lexeme) : Except Fault Reader := do
  return { r with awaiting := .object (← predicateOf table t) }

/-- Open a blank node. -/
def openNode (r : Reader) (predicate : String) (line : Int) : Reader :=
  { current := ⟨nodeLabel r.nodes, []⟩
    enclosing := ⟨r.current, predicate, line⟩ :: r.enclosing
    awaiting := .node
    nodes := r.nodes + 1 }

/-- Take an object, or open the blank node that is the object. -/
def readObject (table : PrefixTable) (r : Reader) (predicate : String) (t : Token) :
    Except Fault Reader :=
  match t.lexeme with
  | .openBracket => .ok (r.openNode predicate t.line)
  | other => do
    let object ← objectOf table other
    return { r with current := r.current.add predicate object, awaiting := .more predicate }

/-- Close a blank node: it becomes an object in the list around it. -/
def closeNode (r : Reader) (n : OpenNode) (outer : List OpenNode) : Reader :=
  let node := Node.blank r.current.subject r.current.triples.reverse
  { r with
    current := n.around.add n.predicate node
    enclosing := outer
    awaiting := .more n.predicate }

/-- End the list being read with a token: a bracket closes a blank node and a full stop ends
a statement. -/
def endList (r : Reader) (t : Token) : Except GrammarError Reader :=
  match r.enclosing, t.lexeme with
  | n :: outer, .closeBracket => .ok (r.closeNode n outer)
  | n :: _, _ => .error ⟨.nodeNotClosed, some n.line⟩
  | [], .stop => .ok { r with awaiting := .statement }
  | [], other => .error ⟨.statementNotEnded other.text, some t.line⟩

/-- Whether a token ends the list being read. -/
def closes (r : Reader) (t : Lexeme) : Bool :=
  if r.enclosing.isEmpty then t == .stop else t == .closeBracket

/-- Blame a fault on the line of a token. -/
def blame {α : Type} (t : Token) : Except Fault α → Except GrammarError α
  | .ok a => .ok a
  | .error fault => .error ⟨fault, some t.line⟩

/-- Take the next token. -/
def step (table : PrefixTable) (r : Reader) (t : Token) : Except GrammarError Reader :=
  match r.awaiting with
  | .statement => if t.lexeme = .stop then .ok r else blame t (r.readSubject table t.lexeme)
  | .predicate => blame t (r.readPredicate table t.lexeme)
  | .object predicate => blame t (r.readObject table predicate t)
  | .more predicate =>
    match t.lexeme with
    | .comma => .ok { r with awaiting := .object predicate }
    | .semicolon => .ok { r with awaiting := .group }
    | _ => r.endList t
  | .group =>
    if t.lexeme = .semicolon then .ok r
    else if r.closes t.lexeme then r.endList t
    else blame t (r.readPredicate table t.lexeme)
  | .node =>
    if t.lexeme = .closeBracket then r.endList t else blame t (r.readPredicate table t.lexeme)

/-- Take several tokens, one after the other. -/
def run (table : PrefixTable) (r : Reader) : List Token → Except GrammarError Reader
  | [] => .ok r
  | t :: rest =>
    match r.step table t with
    | .ok next => next.run table rest
    | .error e => .error e

/-- The first token is taken before the others. -/
theorem run_cons (table : PrefixTable) (r : Reader) (t : Token) (rest : List Token) :
    r.run table (t :: rest) = r.step table t >>= fun next => next.run table rest := by
  rw [run]
  cases r.step table t <;> rfl

/-- End the reading: the triples of the block in order. Where a token is missing, the last line
that holds one is to blame; where only a bracket is, the line of the bracket it should close. -/
def finish (r : Reader) (lastLine : Option Int) : Except GrammarError (List Triple) :=
  match r.awaiting with
  | .statement => .ok r.current.triples.reverse
  | .predicate => .error ⟨.unexpectedEnd, lastLine⟩
  | .object _ => .error ⟨.unexpectedEnd, lastLine⟩
  | .more _ | .group | .node =>
    match r.enclosing with
    | [] => .ok r.current.triples.reverse
    | n :: _ => .error ⟨.nodeNotClosed, some n.line⟩

end Reader

/-- The triples that a list of tokens stands for. -/
def statements (table : PrefixTable) (tokens : List Token) : Except GrammarError (List Triple) := do
  let r ← Reader.start.run table tokens
  r.finish (tokens.getLast?.map Token.line)

end DocGraph.Block
