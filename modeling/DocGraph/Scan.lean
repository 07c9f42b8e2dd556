import DocGraph.Scan.Options
import DocGraph.Scan.Pool
import DocGraph.Text.FileText

/-!
# Running a scan

A scan looks at the candidates of a walk, in order, until the walk is over or a failure ends the
scan. What was found until then is not lost.

With workers, the walk and the looking go on side by side, and a failure ends the walk, while the
candidates that are on the queue by then are still looked at. Of the ways in which this can go,
the one here lets the workers go before the walker. The number of workers, if the options leave it
open, is that of the processors.
-/

set_option autoImplicit false

namespace DocGraph

/-- Why there is no complete result. -/
inductive ScanError where
  /-- The root leads in a circle of links. -/
  | linkLoop
  | missingRoot (root : Path)
  /-- Nothing can be said about what is at the root, or at an ignore file. -/
  | refused (path : Path) (fault : SystemFault)
  /-- The number of workers is not positive. -/
  | noWorkers
  | badGlob (error : GlobError)
  /-- The scan was given up, with what it had found. -/
  | aborted (reason : Abort) (partialResult : ScanResult)
  deriving DecidableEq, Repr

namespace ScanState

/-- Do what comes next in a walk. -/
def perform (policy : AbortPolicy) (look : Path → List ScanEvent) (s : ScanState) :
    Visit → ScanState
  | .listed _ => s
  | .candidate path => s.recordAll policy (look path)
  | .failed path failure => s.record policy (.failed path failure true)

/-- Do what a walk says until the scan is given up. -/
def performAll (policy : AbortPolicy) (look : Path → List ScanEvent) (s : ScanState) :
    List Visit → ScanState
  | [] => s
  | v :: rest =>
    if s.abort.isSome then s else performAll policy look (s.perform policy look v) rest

/-- The result of a scan that nothing but a failure can have ended. -/
def outcome (s : ScanState) : Except ScanError ScanResult :=
  match s.abort with
  | some reason => .error (.aborted reason s.result)
  | none => .ok s.result

end ScanState

namespace Walk

/-- Scan along a walk. If a failure ends the scan, the end of the walk is never reached. -/
def scan (policy : AbortPolicy) (look : Path → List ScanEvent) (walk : Walk) :
    Except ScanError ScanResult :=
  let s := ({} : ScanState).performAll policy look walk.visits
  match s.abort, walk.broken with
  | none, some e => .error (.badGlob e)
  | _, _ => s.outcome

/-- Scan along a walk with a number of workers. More workers than there are candidates would have
nothing to do, so their number is kept in proportion to the walk. -/
def scanWithWorkers (policy : AbortPolicy) (look : Path → List ScanEvent) (workers : Nat)
    (walk : Walk) : Except ScanError ScanResult :=
  let busy := min workers (walk.visits.length + 1)
  let pool := (Pool.start walk busy).run policy look
  match pool.broken with
  | some e => .error (.badGlob e)
  | none => pool.state.outcome

end Walk

namespace ScanOptions

/-- When the scan is given up. -/
def policy (o : ScanOptions) : AbortPolicy :=
  ⟨o.strict, o.maxErrors⟩

/-- The number of workers, given how many processors there are. -/
def workerCount (o : ScanOptions) (processors : Nat) : Int :=
  if o.workers = 0 then max processors 1 else o.workers

/-- What is looked for in files. -/
def criteria (o : ScanOptions) (registry : Registry) : Site.Criteria :=
  ⟨registry, o.maxFileSize⟩

end ScanOptions

namespace Site

/-- The rules of an ignore file; none if it cannot be read. A name with a null character stands
for no file at all. -/
def rulesOfFile (site : Site) (path : Path) : Except ScanError IgnoreRules :=
  match site.files.read path with
  | .ok content => .ok (IgnoreRules.ofFile (Text.ofFile content))
  | .error .nullCharacter => .error (.refused path .nullCharacter)
  | .error _ => .ok []

/-- The rules of the ignore files with the given names in a directory. -/
def rulesOfFiles (site : Site) (directory : Path) (names : List String) :
    Except ScanError IgnoreRules :=
  (names.mapM fun name => site.rulesOfFile (directory.join (Path.ofString name))).map
    List.flatten

/-- All rules of a scan: the standard ones, those of the options, those of the ignore files. -/
def rules (site : Site) (root : Path) (o : ScanOptions) : Except ScanError IgnoreRules :=
  (site.rulesOfFiles root o.ignoreFiles).map fun found =>
    (if o.useDefaults then IgnoreRules.standard else []) ++ o.excludePatterns ++ found

/-- The plan of a scan. -/
def plan (site : Site) (root : Path) (o : ScanOptions) : Except ScanError WalkPlan :=
  (site.rules root o).map fun rules => ⟨root, rules, o.includePatterns⟩

/-- Scan according to a plan. -/
def scanPlanned (site : Site) (registry : Registry) (plan : WalkPlan) (o : ScanOptions) :
    Except ScanError ScanResult :=
  let walk := plan.walk site o.followLinks
  let look := site.inspect (o.criteria registry)
  if o.concurrent then walk.scanWithWorkers o.policy look (o.workerCount site.processors).toNat
  else walk.scan o.policy look

/-- The root of a scan with its links resolved. -/
def root (site : Site) (path : Path) : Except ScanError Path :=
  match site.files.resolve path with
  | .ok root => .ok root
  | .error .tooManyLinks => .error .linkLoop
  | .error fault => .error (.refused path fault)

/-- Look whether the root of a scan is there. -/
def checkRoot (site : Site) (root : Path) : Except ScanError Unit :=
  match site.files.exists? root with
  | .ok true => .ok ()
  | .ok false => .error (.missingRoot root)
  | .error fault => .error (.refused root fault)

/-- Scan from a root. -/
def scan (site : Site) (registry : Registry) (path : Path) (o : ScanOptions) :
    Except ScanError ScanResult := do
  let root ← site.root path
  site.checkRoot root
  let plan ← site.plan root o
  if o.concurrent && o.workerCount site.processors ≤ 0 then throw .noWorkers
  site.scanPlanned registry plan o

end Site

/-- The words for a root that does not exist. -/
def missingRootMessage (root : Path) : String :=
  "path does not exist: " ++ root.toString

/-- The words for a number of workers that no scan can have. -/
def noWorkersMessage : String :=
  "max_workers must be greater than 0"

end DocGraph
