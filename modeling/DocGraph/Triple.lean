import DocGraph.Text.Occurrence

/-!
# Triples

Statements of a metadata block: a subject and a predicate, both written as text, and an object
that is a literal, a reference or a blank node. A blank node carries the triples of its own, in
the order in which they were declared, with its label as their subject.

A triple is stored as rows of three texts. The rows of a triple with a blank node are the row
that names the node, followed by the rows of the node's triples, depth first.
-/

set_option autoImplicit false

namespace DocGraph

mutual

/-- A subject, a predicate and an object. -/
inductive Triple where
  | mk (subject predicate : String) (object : Node)

/-- The object of a triple. -/
inductive Node where
  /-- A quoted text or a bare word. -/
  | literal (value : String)
  /-- A reference, expanded where its prefix was declared. -/
  | uri (value : String)
  /-- A node without a name of its own. -/
  | blank (label : String) (triples : List Triple)

end

/-- The subject of a triple. -/
def Triple.subject : Triple → String
  | .mk s _ _ => s

/-- The predicate of a triple. -/
def Triple.predicate : Triple → String
  | .mk _ p _ => p

/-- The object of a triple. -/
def Triple.object : Triple → Node
  | .mk _ _ o => o

/-- What comes after the last separator, or everything if there is none. -/
def afterLast (separator : Char) (s : List Char) : List Char :=
  (s.reverse.takeWhile (· != separator)).reverse

/-- The local name of a reference: what comes after its last hash sign, slash and colon. -/
def localName (uri : String) : String :=
  String.ofList (afterLast ':' (afterLast '/' (afterLast '#' uri.toList)))

/-- The local name of a triple's predicate. -/
def Triple.localName (t : Triple) : String :=
  DocGraph.localName t.predicate

/-- A node in one word: its value, or its label. -/
def Node.text : Node → String
  | .literal value => value
  | .uri value => value
  | .blank label _ => label

/-- The objects of the inner triples whose predicate has a local name; a node that is not blank
has no inner triples. -/
def Node.values (name : String) : Node → List Node
  | .blank _ triples => (triples.filter fun t => t.localName = name).map Triple.object
  | _ => []

/-- Every blank node's label starts like this. -/
def blankMark : String := "_:"

/-- Qualify the label of a blank node with a scope, so that labels of different blocks do not
meet. The empty scope leaves it as it is. -/
def scopedLabel (label scope : String) : String :=
  if scope.isEmpty then label
  else
    let name := (blankMark.toList.isPrefixOf? label.toList).getD label.toList
    blankMark ++ scope ++ "#" ++ String.ofList name

/-- A triple as it is stored: three texts. -/
structure Row where
  subject : String
  predicate : String
  object : String
  deriving DecidableEq, Repr

mutual

/-- The rows of a triple under a subject, the labels of its blank nodes qualified by a scope. -/
def Triple.rowsUnder (scope subject : String) : Triple → List Row
  | .mk _ p o => Node.rowsUnder scope subject p o

/-- The rows that give a node to a subject under a predicate. -/
def Node.rowsUnder (scope subject predicate : String) : Node → List Row
  | .literal value => [⟨subject, predicate, value⟩]
  | .uri value => [⟨subject, predicate, value⟩]
  | .blank label triples =>
    let node := scopedLabel label scope
    ⟨subject, predicate, node⟩ :: rowsOfAll scope node triples

/-- The rows of several triples under one subject, in order. -/
def rowsOfAll (scope subject : String) : List Triple → List Row
  | [] => []
  | t :: rest => t.rowsUnder scope subject ++ rowsOfAll scope subject rest

end

/-- The rows of a triple. -/
def Triple.rows (scope : String) (t : Triple) : List Row :=
  t.rowsUnder scope t.subject

end DocGraph
