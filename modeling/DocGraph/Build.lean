import DocGraph.Build.Ingest
import DocGraph.Build.Options
import DocGraph.Graph.Validation
import DocGraph.Scan

/-!
# Building a graph

A build scans a tree, takes in the files with a block in the order of their paths, links the
modules, counts what there is, and checks the graph if it is asked to. On the way it reports how
far it is.
-/

set_option autoImplicit false

namespace DocGraph

/-- Why there is no graph. -/
inductive BuildError where
  | scan (error : ScanError)
  | ingest (error : IngestError)
  /-- The graph has errors; it is still there to be looked at. -/
  | invalid (graph : Graph) (validation : Validation)

/-- A step of a build that is reported. -/
inductive Progress where
  | scanning
  | errors (log : ErrorLog)
  /-- How many files were scanned and how many failed, if some did. -/
  | partialScan (scanned failed : Nat)
  /-- How many files with a block were found. -/
  | found (count : Nat)
  | validating
  | warnings (count : Nat)
  | built (stats : GraphStats)

/-- The words for a step, with the time in seconds that the build took. -/
def Progress.text (elapsed : String) : Progress → String
  | .scanning => "Scanning codebase..."
  | .errors log => ErrorLog.report log reportLimit
  | .partialScan scanned failed =>
    "Partial scan results: " ++ toString scanned ++ " files scanned, " ++ toString failed ++
      " files failed"
  | .found count =>
    "Found " ++ toString count ++ " files with LinkedDoc metadata\nParsing LinkedDoc metadata..."
  | .validating => "Validating graph..."
  | .warnings count => "Validation completed with " ++ toString count ++ " warnings"
  | .built stats =>
    "Graph built: " ++ toString stats.totalModules ++ " modules, " ++
      toString stats.totalTriples ++ " triples, " ++ toString stats.totalRelationships ++
      " relationships in " ++ elapsed ++ "s"

/-- What a build reports, and what it comes to. -/
structure BuildOutcome where
  progress : List Progress
  result : Except BuildError Graph

namespace BuildOutcome

/-- Report steps before those of an outcome. -/
def after (steps : List Progress) (outcome : BuildOutcome) : BuildOutcome :=
  { outcome with progress := steps ++ outcome.progress }

/-- Fail without a report. -/
def fail (e : BuildError) : BuildOutcome :=
  ⟨[], .error e⟩

end BuildOutcome

namespace Graph

/-- Count the rows of the store and the relationships. -/
def tally (g : Graph) : Graph :=
  { g with
    stats :=
      { g.stats with totalTriples := g.store.count, totalRelationships := g.relationships } }

/-- The graph of the files of a scan. -/
def ofScan (reader : TripleReader) (root : Path) (scan : ScanResult) : Except IngestError Graph :=
  let paths := scan.linked.map FileRecord.path
  let ordered := paths.mergeSort fun a b => !(b.toString < a.toString)
  (ingestAll reader root { root := root.toString } ordered).map fun g => g.link.tally

/-- Check a graph if that is asked for. -/
def finish (g : Graph) (validate : Bool) : BuildOutcome :=
  let built : BuildOutcome := ⟨[.built g.stats], .ok g⟩
  if validate then
    let v := g.validate
    let next :=
      if v.isValid then
        if v.warnings.isEmpty then built else built.after [.warnings v.warnings.length]
      else .fail (.invalid g v)
    next.after [.validating]
  else built

end Graph

/-- What is reported about a scan. -/
def ScanResult.progress (r : ScanResult) : List Progress :=
  (if r.errors.isEmpty then [] else [.errors r.errors, .partialScan r.scanned r.failed]) ++
    [.found r.linked.length]

namespace Site

/-- Build from a root whose links are resolved. -/
def buildFrom (site : Site) (registry : Registry) (reader : TripleReader) (root : Path)
    (o : BuildOptions) : BuildOutcome :=
  match site.scan registry root o.scan with
  | .error e => .fail (.scan e)
  | .ok scan =>
    match Graph.ofScan reader root scan with
    | .error e => .fail (.ingest e)
    | .ok g =>
      let failures := if g.errors.isEmpty then [] else [Progress.errors g.errors]
      (g.finish o.validate).after (scan.progress ++ failures)

/-- Build the graph of the tree below a root. -/
def build (site : Site) (registry : Registry) (reader : TripleReader) (path : Path)
    (o : BuildOptions) : BuildOutcome :=
  match site.root path with
  | .error e => .fail (.scan e)
  | .ok root => (site.buildFrom registry reader root o).after [.scanning]

end Site

end DocGraph
