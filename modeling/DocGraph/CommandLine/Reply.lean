import DocGraph.Build
import DocGraph.CommandLine.Command
import DocGraph.CommandLine.Markup
import DocGraph.FileSize
import DocGraph.Focus
import DocGraph.JsonText

/-!
# Replies

What the program answers to its arguments: what it writes to the console, what it complains
about, and the code it ends with, which is two if the arguments are wrong and one if a command
fails for a reason that it expects.
-/

set_option autoImplicit false

namespace DocGraph

/-- A part of what is written. -/
inductive Shown where
  /-- The help of a command: how it is used, and its options. -/
  | help (usage : String) (options : List String)
  | text (s : String)
  | document (value : Value)
  | table (title : String) (header : List String) (rows : List (List String))

/-- An answer of the program. -/
structure Reply where
  code : Nat
  shown : List Shown
  complaint : String

/-- A failure that no command expects. -/
inductive CommandFailure where
  | options (error : OptionsError)
  | scan (error : ScanError)
  | build (error : IngestError)
  | glob (error : GlobError)
  | sample (error : SampleError)
  | markup (error : Markup.MarkupError)
  /-- What an argument names cannot be looked at. -/
  | refused (fault : SystemFault)

/-- The words for a failure that no command expects. -/
def CommandFailure.message : CommandFailure → String
  | .options (.setting (.number e)) => e.message
  | .options _ => "the options are not valid"
  | .scan .noWorkers => noWorkersMessage
  | .scan .linkLoop => "the root leads in a circle of links"
  | .scan (.missingRoot root) => missingRootMessage root
  | .scan (.refused path fault) => (fault.failureAt path).message
  | .scan (.aborted reason _) => reason.message
  | .scan (.badGlob _) => "a glob has a range that is turned around"
  | .build (.store e) => e.message
  | .build (.stalled path line) =>
    path.toString ++ ":" ++ toString line ++ ": the block cannot be read to its end"
  | .glob _ => "a glob has a range that is turned around"
  | .sample e => e.message
  | .markup (.notOpen tag) => "closing tag '[" ++ tag ++ "]' doesn't match any open tag"
  | .markup (.action parameters) => "no action is told by '" ++ parameters ++ "'"
  | .markup (.number e) => e.message
  | .refused fault => fault.text

/-- What a command works with. -/
structure CommandContext where
  site : Site
  /-- The directory that relative paths start from. -/
  directory : Path
  env : Environment
  /-- A seed that is used when none is given. -/
  seed : Int
  /-- The time in seconds that the work is said to take. -/
  elapsed : String

namespace Reply

/-- A reply of a command that succeeds. -/
def success (shown : List Shown) : Reply := ⟨0, shown, ""⟩

/-- The line for an error. -/
def errorLine (message : String) : String :=
  "Error: " ++ message ++ "\n"

/-- A reply of a command that fails. -/
def failure (message : String) (shown : List Shown) : Reply :=
  ⟨1, shown, errorLine message⟩

/-- The reply to wrong arguments. -/
def misuse (e : UsageError) : Reply :=
  ⟨2, [], errorLine e.message⟩

end Reply

namespace CommandLine

open Markup

/-- The path that an argument stands for. -/
def pathOf (c : CommandContext) (argument : String) : Path :=
  c.directory.join (Path.ofString argument)

/-- The settings that a command falls back on. -/
def sources (c : CommandContext) : SettingSources :=
  { env := c.env }

/-- The path of a record relative to the root. -/
def shownPath (root : Path) (r : FileRecord) : String :=
  r.path.relativeText root

/-- A record as it is written in a document. -/
def recordValue (root : Path) (r : FileRecord) : Value :=
  .table [("path", .text (shownPath root r)), ("language", .text r.language),
    ("size", .integer r.size), ("mod_time", .text r.modified.text),
    ("has_linked_doc", .switch r.hasBlock)]

/-- The result of a scan as a document. -/
def scanDocument (root : Path) (result : ScanResult) (selected : List FileRecord) : Value :=
  .table [("root", .text root.toString), ("files", .list (selected.map (recordValue root))),
    ("files_scanned", .integer result.scanned), ("files_failed", .integer result.failed),
    ("errors", .list (result.errors.map fun e => .text e.text))]

/-- A table as it is shown on a console, its title before its rows. -/
def shownTable (title : MarkedText) (header : List String) (rows : List (List MarkedText)) :
    Except MarkupError Shown := do
  let title ← title.shown
  return .table title header (← rows.mapM (·.mapM MarkedText.shown))

/-- A record as a row, whose texts are shown on a console. -/
def recordRow (root : Path) (r : FileRecord) : Except MarkupError (List MarkedText) := do
  return [← MarkedText.read (shownPath root r), ← MarkedText.read r.language,
    .plain ((sizeText? r.size).getD (toString r.size)), .plain (if r.hasBlock then "✓" else "")]

/-- The result of a scan as it is shown on a console. -/
def scanReport (elapsed : String) (root : Path) (result : ScanResult)
    (selected : List FileRecord) : Except MarkupError (List Shown) := do
  let rows ← selected.mapM (recordRow root)
  let listing : Shown ←
    if rows.isEmpty then pure (.text "No source files found.")
    else do
      let title ← MarkedText.read ("Scan: " ++ root.toString)
      shownTable title ["Path", "Language", "Size", "LinkedDoc"] rows
  let linked := selected.filter FileRecord.hasBlock
  let summary := toString selected.length ++ " of " ++ toString result.files.length ++
    " files, " ++ toString linked.length ++ " with LinkedDoc (" ++ elapsed ++ "s)"
  let failures :=
    if result.errors.isEmpty then []
    else [Shown.text (ConsoleText.shown (ErrorLog.report result.errors reportLimit))]
  return [listing, .text summary] ++ failures

/-- The files of a scan that are asked for: those in focus, or a sample of them. -/
def selectPaths (c : CommandContext) (root : Path) (paths focus : List String)
    (sample : Option Int) (strategy : String) (seed : Option Int) :
    Except CommandFailure (List String) := do
  let focused ←
    if focus.isEmpty then .ok paths
    else ((⟨focus, some root⟩ : Focus).keep paths).mapError .glob
  match sample with
  | none => return focused
  | some size =>
    let seed := ((seed.filter (· ≠ 0))).getD c.seed
    let sampler := Sampler.ofSeed (.parse strategy) size seed
    let (picked, _) ← (sampler.sample c.site.modified focused).mapError .sample
    return picked

/-- The records of paths, in the order of paths. -/
def selectRecords (files : List FileRecord) (paths : List String) : List FileRecord :=
  (files.filter fun r => r.path.toString ∈ paths).mergeSort fun a b =>
    !(b.path.toString < a.path.toString)

/-- Show the result of a scan. -/
def showScan (c : CommandContext) (root : Path) (result : ScanResult) (focus : List String)
    (sample : Option Int) (strategy : String) (seed : Option Int) (asJson : Bool) :
    Except CommandFailure Reply := do
  let paths ← selectPaths c root (result.files.map fun r => r.path.toString) focus sample
    strategy seed
  let selected := selectRecords result.files paths
  if asJson then return .success [.document (scanDocument root result selected)]
  else return .success (← (scanReport c.elapsed root result selected).mapError .markup)

/-- List the source files below a root. -/
def runScan (c : CommandContext) (root : String) (a : ScanArguments) (focus : List String)
    (sample : Option Int) (strategy : String) (seed : Option Int) (asJson : Bool) :
    Except CommandFailure Reply := do
  let options ← (ScanOptions.read (sources c) (optionFields a)).mapError .options
  let path := pathOf c root
  match c.site.scan .standard path options with
  | .error (.missingRoot root) => return .failure (missingRootMessage root) []
  | .error (.aborted reason result) =>
    return ⟨1, [], ErrorLog.report result.errors reportLimit ++ "\n" ++
      Reply.errorLine reason.message⟩
  | .error e => throw (.scan e)
  | .ok result =>
    let root ← (c.site.root path).mapError .scan
    showScan c root result focus sample strategy seed asJson

/-- The counts of a histogram as rows, keys in order. -/
def countRows (what : String) (h : Histogram) : Except MarkupError (List (List MarkedText)) :=
  (h.mergeSort fun a b => !(b.1 < a.1)).mapM fun (key, n) => do
    return [← MarkedText.read (what ++ ": " ++ key), .plain (toString n)]

/-- A row with a number. -/
def countRow (what : String) (n : Nat) : List MarkedText :=
  [.plain what, .plain (toString n)]

/-- The numbers of a graph as rows. -/
def graphRows (elapsed : String) (g : Graph) : Except MarkupError (List (List MarkedText)) := do
  let s := g.stats
  return [countRow "Modules" s.totalModules, countRow "Triples" s.totalTriples,
      countRow "Relationships" s.totalRelationships] ++
    (← countRows "Language" s.byLanguage) ++ (← countRows "Layer" s.byLayer) ++
    [countRow "Unresolved dependencies" g.unresolved.length,
      countRow "Parse errors" g.errors.length,
      [.plain "Build time", .plain (elapsed ++ "s")]]

/-- The numbers of a graph as they are shown on a console. -/
def graphReport (elapsed : String) (g : Graph) : Except MarkupError Shown := do
  let rows ← graphRows elapsed g
  shownTable (← MarkedText.read ("Graph: " ++ g.root)) [] rows

/-- What the console shows of a step of a build. -/
def shownProgress (elapsed : String) (step : Progress) : String :=
  ConsoleText.shown (step.text elapsed)

/-- Build the graph of a tree and show its numbers. -/
def runBuild (c : CommandContext) (root : String) (a : ScanArguments) (validate progress : Bool) :
    Except CommandFailure Reply := do
  let scan ← (ScanOptions.read (sources c) (optionFields a)).mapError .options
  let outcome := c.site.build .standard c.site.files.tripleReader (pathOf c root)
    { scan, validate, reportProgress := progress }
  let steps :=
    if progress then outcome.progress.map fun p => Shown.text (shownProgress c.elapsed p) else []
  match outcome.result with
  | .error (.scan (.missingRoot root)) => return .failure (missingRootMessage root) steps
  | .error (.scan (.aborted reason _)) => return .failure reason.message steps
  | .error (.scan e) => throw (.scan e)
  | .error (.ingest e) => throw (.build e)
  | .error (.invalid _ v) => return .failure v.message steps
  | .ok g =>
    return .success (steps ++ [← (graphReport c.elapsed g).mapError .markup])

/-- Do what is asked. -/
def answer (c : CommandContext) : Request → Except CommandFailure Reply
  | .help command => .ok (.success [.help (usage command) (helpLines command)])
  | .version => .ok (.success [.text versionText])
  | .scan root a focus sample strategy seed asJson =>
    runScan c root a focus sample strategy seed asJson
  | .build root a validate progress => runBuild c root a validate progress

/-- Whether an argument leads to a file as it is written: one with a slash at its end asks for a
directory. What cannot be looked at is no file, and a null character is refused. -/
def leadsToFile (c : CommandContext) : FileTest := fun argument =>
  match c.site.files.locate (c.directory.join (Path.verbatim argument)) with
  | .ok (.file _ _) => .ok true
  | .error .nullCharacter => .error .nullCharacter
  | _ => .ok false

/-- Run the program with its arguments. -/
def run (c : CommandContext) (arguments : List String) : Except CommandFailure Reply :=
  match readRequest (leadsToFile c) arguments with
  | .error (.refused fault) => .error (.refused fault)
  | .error e => .ok (.misuse e)
  | .ok request => answer c request

end CommandLine

end DocGraph
