import DocGraph.Block.Parse
import DocGraph.Graph
import DocGraph.Scan.Record

/-!
# Taking files into a graph

The triples of a file go to the store, with the labels of blank nodes qualified by the path of
the file. The subject that is said to be a module becomes a module of the graph, filled from all
triples about it. A file that cannot be read leaves nothing but an entry on the list of errors.
-/

set_option autoImplicit false

namespace DocGraph

/-- The local name of the type of modules. -/
def moduleType : String := "Module"

/-- Whether a triple says that its subject is a module. -/
def Triple.declaresModule (t : Triple) : Bool :=
  t.predicate = Block.typePredicate && DocGraph.localName t.object.text = moduleType

/-- The first subject that is said to be a module. -/
def moduleSubject (triples : List Triple) : Option String :=
  (triples.find? Triple.declaresModule).map Triple.subject

/-- The reference that a node stands for as a dependency: a blank node stands for its first
inner path, else for its first inner name. -/
def Node.reference (node : Node) : String :=
  match node.values "path" ++ node.values "name" with
  | value :: _ => value.text
  | [] => node.text

/-- The value that a triple gives to a module. -/
def Triple.moduleValue (t : Triple) : String :=
  if Field.ofLocalName? t.localName = some .dependency then t.object.reference else t.object.text

/-- Whether a triple says something about a subject besides its type. -/
def Triple.describes (subject : String) (t : Triple) : Bool :=
  t.subject = subject && t.predicate ≠ Block.typePredicate

/-- The module that triples describe under a subject, in the file with a path. -/
def Module.ofTriples (path subject : String) (triples : List Triple) : Module :=
  (triples.filter (Triple.describes subject)).foldl (fun m t => m.apply t.predicate t.moduleValue)
    { path, uri := subject }

/-- Why the triples of a file could not be read. -/
inductive ReadFailure where
  /-- The file is passed over, with a failure and perhaps the line of it. -/
  | skipped (failure : Failure) (line : Option Int)
  /-- Reading the block would never end. -/
  | stalled (line : Int)
  deriving DecidableEq, Repr

/-- A failure with a block, as a reason not to read a file. -/
def ReadFailure.ofBlock : Block.Failure → ReadFailure
  | .grammar e => .skipped ⟨.grammar, e.message⟩ (Block.shownLine e.line)
  | .stalled line => .stalled line

/-- Reads the triples of files. -/
abbrev TripleReader := Path → Except ReadFailure (List Triple)

/-- Read the triples of files of a file system. -/
def FileSystem.tripleReader (files : FileSystem) : TripleReader := fun path =>
  match files.read path with
  | .error fault => .error (.skipped (SystemError.failure ⟨fault, path.toString⟩) none)
  | .ok bytes => (Block.parseBytes bytes).mapError .ofBlock

/-- Why there is no graph, not even one with errors, once files are taken in. -/
inductive IngestError where
  | store (error : StoreError)
  /-- Reading the block of a file would never end. -/
  | stalled (path : Path) (line : Int)
  deriving DecidableEq, Repr

namespace Graph

/-- Add the module that the triples of a file describe, if there is one. -/
def addModuleOf (g : Graph) (path : String) (triples : List Triple) : Graph :=
  match moduleSubject triples with
  | some subject => g.add (Module.ofTriples path subject triples)
  | none => g

/-- Take in the triples of the file with a path relative to the root. -/
def addTriples (g : Graph) (path : String) (triples : List Triple) : Except IngestError Graph :=
  match g.store.addAll (triples.flatMap (Triple.rows path)) with
  | .ok store => .ok ({ g with store }.addModuleOf path triples)
  | .error (e, _) => .error (.store e)

/-- Note that a file is passed over. -/
def skip (g : Graph) (path : Path) (failure : Failure) (line : Option Int) : Graph :=
  let entry : CollectedError :=
    { file := path.toString, message := failure.message, line, cause := some failure.cause }
  { g with errors := g.errors ++ [entry] }

/-- Take in a file. -/
def ingest (reader : TripleReader) (root : Path) (g : Graph) (path : Path) :
    Except IngestError Graph :=
  match reader path with
  | .ok triples => g.addTriples (path.relativeText root) triples
  | .error (.skipped failure line) => .ok (g.skip path failure line)
  | .error (.stalled line) => .error (.stalled path line)

/-- Take in files, one after the other. -/
def ingestAll (reader : TripleReader) (root : Path) (g : Graph) (paths : List Path) :
    Except IngestError Graph :=
  paths.foldlM (ingest reader root) g

end Graph

end DocGraph
