import DocGraph.Proofs.Scan.Concurrency
import DocGraph.Proofs.Text.Occurrence

/-!
# Files without a block

A scan looks for the mark of a block in the bytes of a file, and a build reads only the files that
have it. `startMark_decides` says that nothing gets lost on the way: the bytes have the mark exactly
if the text does in which a block is looked for, so a file without it has no triples and no errors,
and reading every file that the scan found would give the same graph.
-/

set_option autoImplicit false

namespace DocGraph

/-! ## The mark in the bytes and in the text -/

/-- The start marker is made of ASCII characters, a byte each. -/
theorem startMarker_bytes :
    Block.startMarker.toUTF8.toList = Block.startMarker.toList.map Text.asciiByte := by
  cbv

/-- The bytes of a file have the mark exactly if its text has it. -/
theorem hasStartMark_iff (bytes : List UInt8) :
    hasStartMark bytes = true ↔ Block.startMarker.toList <:+: (Text.ofFile bytes).toList := by
  have ascii : Text.AsciiPattern Block.startMarker.toList := by
    simp [Text.AsciiPattern, Block.startMarker]
  have unbroken : Text.BreakFree Block.startMarker.toList := by
    simp [Text.BreakFree, Block.startMarker]
  obtain ⟨first, pattern, spelled⟩ : ∃ first pattern, Block.startMarker.toList = first :: pattern :=
    ⟨_, _, rfl⟩
  rw [spelled] at ascii unbroken
  rw [hasStartMark, startMarker_bytes, ← Text.occursIn_iff_isInfix, spelled,
    Text.occursIn_ofFile ascii unbroken]

/-- Bytes of an unfinished character in front of the mark do not hide it. -/
example : hasStartMark ([0xE2, 0x82] ++ Block.startMarker.toUTF8.toList) = true := by
  cbv

/-- A text without the mark has no block. -/
theorem locate_of_unmarked {content : String}
    (unmarked : ¬Block.startMarker.toList <:+: content.toList) : Block.locate content = .ok none := by
  have absent : Text.occursIn Block.startMarker.toList content.toList = false := by
    rw [Bool.eq_false_iff, Ne, Text.occursIn_iff_isInfix]
    exact unmarked
  have uncut : Text.breakOn Block.startMarker.toList content.toList = none :=
    (Text.breakOnFrom_eq_none_iff _ _ _).mpr absent
  rw [Block.locate, uncut]

/-- A file without the mark has no triples, and reading it does not fail. -/
theorem parseBytes_of_unmarked {bytes : List UInt8} (unmarked : hasStartMark bytes = false) :
    Block.parseBytes bytes = .ok [] := by
  have absent : ¬Block.startMarker.toList <:+: (Text.ofFile bytes).toList := by
    rw [← hasStartMark_iff, unmarked]
    exact Bool.false_ne_true
  rw [Block.parseBytes, Block.parseDocument, locate_of_unmarked absent]
  rfl

/-! ## Where records come from -/

namespace Pool

variable {policy : AbortPolicy} {look : Path → List ScanEvent} {pool after : Pool}

/-- Every record that was written down, and everything in the hands of workers, comes from looking
at a path. -/
structure Seen (look : Path → List ScanEvent) (pool : Pool) : Prop where
  files : ∀ record ∈ pool.state.result.files, ∃ path, .kept record ∈ look path
  hands : ∀ w ∈ pool.workers, ∀ event ∈ w.events, ∃ path, event ∈ look path

/-- In the first pool nothing was kept and no worker has an event. -/
theorem seen_start (walk : Walk) (workers : Nat) : Seen look (start walk workers) := by
  constructor
  · intro record impossible
    cases impossible
  · intro w member event inHand
    rw [List.eq_of_mem_replicate member] at inHand
    cases inHand

/-- Writing down what comes from looking. -/
theorem files_of_record {s : ScanState} {event : ScanEvent}
    (files : ∀ record ∈ s.result.files, ∃ path, .kept record ∈ look path)
    (seen : ∃ path, event ∈ look path) :
    ∀ record ∈ (s.record policy event).result.files, ∃ path, .kept record ∈ look path := by
  intro record member
  cases event with
  | scanned => exact files record member
  | failed path failure counts => exact files record member
  | kept file =>
    rcases List.mem_append.mp member with old | new
    · exact files record old
    · rw [List.mem_singleton.mp new]
      exact seen

/-- A turn of the walker writes down no record. -/
theorem Seen.walkerTurn (h : pool.Seen look) (goes : pool.walkerTurn policy = some after) :
    after.Seen look := by
  have turn : pool.turn policy look .walker = some after := goes
  have same : after.state.result.files = pool.state.result.files := by
    rw [state_of_turn turn]
    change (pool.state.recordAll policy pool.walker.about?.toList).result.files = _
    unfold Walker.about?
    split <;> rfl
  exact ⟨same ▸ h.files, workers_of_walkerTurn goes ▸ h.hands⟩

/-- A worker that is about to do something else has in hand what comes from looking. -/
theorem Seen.set (h : pool.Seen look) {worker : Worker} (index : Nat)
    (inHand : ∀ event ∈ worker.events, ∃ path, event ∈ look path) :
    ∀ w ∈ pool.workers.set index worker, ∀ event ∈ w.events, ∃ path, event ∈ look path := by
  intro w member
  rcases List.mem_or_eq_of_mem_set member with old | rfl
  · exact h.hands w old
  · exact inHand

/-- A turn of a worker writes down no record but those it saw. -/
theorem Seen.workerTurn (h : pool.Seen look) {index : Nat}
    (goes : pool.workerTurn policy look index = some after) : after.Seen look := by
  cases workerTurn_eq_some_iff.mp goes with
  | @take path rest free front => exact ⟨h.files, h.set index fun event seen => ⟨path, seen⟩⟩
  | leave | finish => exact ⟨h.files, h.set index fun event impossible => by cases impossible⟩
  | write busy =>
    have inHand := h.hands _ (List.mem_of_getElem? busy)
    refine ⟨files_of_record h.files (inHand _ List.mem_cons_self), h.set index ?_⟩
    exact fun e member => inHand e (List.mem_cons_of_mem _ member)

/-- However a scan with workers goes, it writes down no record but those that were seen. -/
theorem seen_of_runs {walk : Walk} {workers : Nat} {taken : List Path}
    (runs : Runs policy look (start walk workers) taken pool) : pool.Seen look := by
  generalize first : start walk workers = origin at runs
  induction runs with
  | start => exact first ▸ seen_start walk workers
  | step turn before goes ih =>
    cases turn with
    | walker => exact ih.walkerTurn goes
    | worker index => exact ih.workerTurn goes

end Pool

namespace Walk

variable {policy : AbortPolicy} {look : Path → List ScanEvent} {walk : Walk} {result : ScanResult}
  {record : FileRecord}

/-- The records that a scan along a walk returns come from looking at candidates. -/
theorem seen_of_scan (h : walk.scan policy look = .ok result) (member : record ∈ result.files) :
    ∃ path, .kept record ∈ look path := by
  rw [found_of_scan h] at member
  obtain ⟨path, -, kept⟩ := mem_files_iff.mp member
  exact ⟨path, kept⟩

/-- So do those that a scan with workers returns. -/
theorem seen_of_scanWithWorkers {workers : Nat}
    (h : walk.scanWithWorkers policy look workers = .ok result) (member : record ∈ result.files) :
    ∃ path, .kept record ∈ look path := by
  obtain ⟨taken, runs⟩ := @Pool.runs_run policy look
    (Pool.start walk (min workers (walk.visits.length + 1)))
  obtain ⟨-, rfl⟩ := found_of_run h
  exact (Pool.seen_of_runs runs).files record member

end Walk

namespace Site

variable {site : Site} {registry : Registry} {path : Path} {o : ScanOptions} {scan : ScanResult}
  {record : FileRecord}

/-- A scan that returns something got as far as a plan. -/
theorem planned_of_scan (h : site.scan registry path o = .ok scan) :
    ∃ plan, site.scanPlanned registry plan o = .ok scan := by
  unfold Site.scan at h
  obtain ⟨root, -, h⟩ := bind_eq_ok_iff.mp h
  obtain ⟨_, -, h⟩ := bind_eq_ok_iff.mp h
  obtain ⟨plan, -, h⟩ := bind_eq_ok_iff.mp h
  refine ⟨plan, ?_⟩
  split at h
  · cases h
  · exact h

/-- The records that a scan returns come from looking at files. -/
theorem seen_of_scan (h : site.scan registry path o = .ok scan) (member : record ∈ scan.files) :
    ∃ seen, .kept record ∈ site.inspect (o.criteria registry) seen := by
  obtain ⟨plan, planned⟩ := planned_of_scan h
  unfold scanPlanned at planned
  dsimp only at planned
  split at planned
  · exact Walk.seen_of_scanWithWorkers planned member
  · exact Walk.seen_of_scan planned member

/-- What a scan looks into is what a build reads. -/
theorem read_of_status {file : FileStatus} (found : site.status path = .ok file) :
    site.files.read path = .ok file.content := by
  unfold status at found
  unfold FileSystem.read
  cases blocked : site.obstacles.status path with
  | some fault =>
    rw [blocked] at found
    cases found
  | none =>
    rw [blocked] at found
    cases located : site.files.locate path with
    | error fault =>
      rw [located] at found
      cases found
    | ok e =>
      rw [located] at found
      cases e with
      | file content modified =>
        cases found
        rfl
      | directory entries => cases found
      | link target => cases found

/-- A file in which a scan saw no block has no triples, and reading it does not fail. -/
theorem read_unflagged {criteria : Criteria} (kept : .kept record ∈ site.inspect criteria path)
    (unflagged : record.hasBlock = false) : site.files.tripleReader record.path = .ok [] := by
  obtain ⟨file, found, -, examined⟩ := kept_mem_inspect_iff.mp kept
  obtain ⟨hasBlock, searched, made⟩ := examine_eq_ok_iff.mp examined
  obtain ⟨modified, -, rfl⟩ := makeRecord_eq_ok_iff.mp made
  have same : hasBlock = hasStartMark file.content := by
    unfold detect at searched
    split at searched
    · cases searched
    · exact (Except.ok.inj searched).symm
  have unmarked : hasStartMark file.content = false := same.symm.trans unflagged
  rw [FileSystem.tripleReader]
  dsimp only
  rw [read_of_status found]
  dsimp only
  rw [parseBytes_of_unmarked unmarked]
  rfl

end Site

/-! ## Files that are not read -/

namespace Graph

/-- Whether reading a file gives anything to take in. -/
def matters (reader : TripleReader) (path : Path) : Bool :=
  match reader path with
  | .ok [] => false
  | _ => true

/-- A path that does not matter is one without triples. -/
theorem matters_eq_false_iff {reader : TripleReader} {path : Path} :
    matters reader path = false ↔ reader path = .ok [] := by
  unfold matters
  split
  next nothing => simp [nothing]
  next something =>
    constructor
    · intro impossible
      cases impossible
    · intro nothing
      exact absurd nothing something

/-- Taking in a file without triples changes nothing. -/
theorem ingest_nothing {reader : TripleReader} {path : Path} (root : Path) (g : Graph)
    (nothing : reader path = .ok []) : g.ingest reader root path = .ok g := by
  unfold ingest
  rw [nothing]
  rfl

/-- Files without triples can be left out. -/
theorem ingestAll_matters (reader : TripleReader) (root : Path) (g : Graph) (paths : List Path) :
    ingestAll reader root g (paths.filter (matters reader)) = ingestAll reader root g paths := by
  induction paths generalizing g with
  | nil => rfl
  | cons path rest ih =>
    unfold ingestAll at ih ⊢
    cases something : matters reader path with
    | true =>
      rw [List.filter_cons, if_pos something, List.foldlM_cons, List.foldlM_cons]
      congr 1
      funext next
      exact ih next
    | false =>
      have nothing := ingest_nothing root g (matters_eq_false_iff.mp something)
      rw [List.filter_cons, something, if_neg Bool.false_ne_true, List.foldlM_cons, nothing, ih]
      rfl

/-- Whether files without triples have a block makes no difference to the graph of a scan. -/
theorem ofScan_eq_of_matters {reader : TripleReader} {first second : ScanResult} (root : Path)
    (same : (first.linked.map FileRecord.path).filter (matters reader) =
      (second.linked.map FileRecord.path).filter (matters reader)) :
    ofScan reader root first = ofScan reader root second := by
  have sorted : ∀ paths : List Path,
      ingestAll reader root { root := root.toString }
          (paths.mergeSort fun a b => !(b.toString < a.toString)) =
        ingestAll reader root { root := root.toString }
          ((paths.filter (matters reader)).mergeSort fun a b => !(b.toString < a.toString)) := by
    intro paths
    rw [← ingestAll_matters, filter_mergeSort_key Path.toString]
  -- Leaving out files and sorting the rest can be done in either order.
  unfold ofScan
  dsimp only
  rw [sorted, same, ← sorted]

end Graph

/-- A scan that found a block in every file. -/
def ScanResult.allFlagged (scan : ScanResult) : ScanResult :=
  { scan with files := scan.files.map fun record => { record with hasBlock := true } }

/-- When all files are flagged the linked ones are all the files. -/
theorem ScanResult.paths_allFlagged (scan : ScanResult) :
    scan.allFlagged.linked.map FileRecord.path = scan.files.map FileRecord.path := by
  have all : scan.allFlagged.linked = scan.allFlagged.files := by
    refine List.filter_eq_self.mpr fun record member => ?_
    obtain ⟨found, -, rfl⟩ := List.mem_map.mp member
    rfl
  rw [all, allFlagged, List.map_map]
  rfl

/-- If the files without a block have no triples, then reading them as well changes nothing. -/
theorem Graph.ofScan_allFlagged {reader : TripleReader} {scan : ScanResult} (root : Path)
    (nothing : ∀ record ∈ scan.files, record.hasBlock = false → reader record.path = .ok []) :
    Graph.ofScan reader root scan = Graph.ofScan reader root scan.allFlagged := by
  apply Graph.ofScan_eq_of_matters
  rw [ScanResult.paths_allFlagged, ScanResult.linked, List.filter_map, List.filter_map,
    List.filter_filter]
  congr 1
  refine List.filter_congr fun record member => ?_
  cases flagged : record.hasBlock with
  | true => rw [Bool.and_true]
  | false =>
    rw [Bool.and_false]
    exact (Graph.matters_eq_false_iff.mpr (nothing record member flagged)).symm

/-- The bytes of a file have the mark of a block exactly if its text has it, and a file without it
has no triples and is read without an error. So this holds of every file that a scan found and saw
no block in, and a build that read all files that were found would come to the same graph, with the
same triples and the same errors. -/
theorem startMark_decides :
    (∀ bytes, hasStartMark bytes = true ↔
      Block.startMarker.toList <:+: (Text.ofFile bytes).toList) ∧
    (∀ bytes, hasStartMark bytes = false → Block.parseBytes bytes = .ok []) ∧
    ∀ (site : Site) (registry : Registry) (path : Path) (o : ScanOptions) (scan : ScanResult),
      site.scan registry path o = .ok scan →
        (∀ record ∈ scan.files, record.hasBlock = false →
          site.files.tripleReader record.path = .ok []) ∧
        ∀ root, Graph.ofScan site.files.tripleReader root scan =
          Graph.ofScan site.files.tripleReader root scan.allFlagged := by
  refine ⟨hasStartMark_iff, fun bytes => parseBytes_of_unmarked, ?_⟩
  intro site registry path o scan returned
  have nothing : ∀ record ∈ scan.files, record.hasBlock = false →
      site.files.tripleReader record.path = .ok [] := by
    intro record member unflagged
    obtain ⟨seen, kept⟩ := Site.seen_of_scan returned member
    exact Site.read_unflagged kept unflagged
  exact ⟨nothing, fun root => Graph.ofScan_allFlagged root nothing⟩

namespace Site

/-- A directory with two files. The one that can be looked at has no block, so it has no triples,
and reading it would change nothing. -/
theorem startMark_decides_in_pair :
    ∃ scan, pair.scan .standard ⟨1, ["src"]⟩ (pairOptions.withConcurrent false) = .ok scan ∧
      hasStartMark [10] = false ∧ Block.parseBytes [10] = .ok [] ∧
      pair.files.tripleReader ⟨1, ["src", "a.py"]⟩ = .ok [] ∧
      Graph.ofScan pair.files.tripleReader ⟨1, ["src"]⟩ scan =
        Graph.ofScan pair.files.tripleReader ⟨1, ["src"]⟩ scan.allFlagged := by
  have returned := scan_sequential pair_reaches pair_readable pair_tolerates
  have unmarked : hasStartMark [10] = false := by cbv
  obtain ⟨-, empty, files⟩ := startMark_decides
  obtain ⟨nothing, same⟩ := files pair .standard _ _ _ returned
  exact ⟨_, returned, unmarked, empty _ unmarked, nothing _ pair_found rfl, same _⟩

end Site

end DocGraph
