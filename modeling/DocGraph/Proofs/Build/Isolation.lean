import DocGraph.Proofs.Build.Ingestion
import DocGraph.Proofs.Scan.Concurrency
import DocGraph.Proofs.Scan.Once
import DocGraph.Proofs.Scan.Selection
import DocGraph.Proofs.Text.Occurrence

/-!
# A bad file stands for itself

A file with a block that is not in the language is passed over. `build_isolates` says what this
means for the graph: every other file has its rows and its module there, the file that is passed
over has one entry on the list of errors and nothing else, and without it the graph would be the
same but for that entry.

There are blocks in the language of which no graph comes. A reference may be empty, and a triple
with an empty subject cannot be stored, which ends the build and not only the reading of the file.
`build_isolates` says that a build ends early for no other reason than a file of which no graph
comes, and `build_of_nameless` shows such a file next to a good one.
-/

set_option autoImplicit false

namespace DocGraph

namespace ScanResult

/-- The paths of the files with a block, in the order in which the files are read. -/
def flagged (scan : ScanResult) : List Path :=
  (scan.linked.map FileRecord.path).mergeSort fun a b => !(b.toString < a.toString)

/-- What a scan would have found if only some of the files were there. -/
def among (scan : ScanResult) (keep : Path → Bool) : ScanResult :=
  { scan with files := scan.files.filter fun record => keep record.path }

/-- Files that are not there are not read. -/
theorem flagged_among (scan : ScanResult) (keep : Path → Bool) :
    (scan.among keep).flagged = scan.flagged.filter keep := by
  have linked : (scan.among keep).linked = scan.linked.filter fun record => keep record.path := by
    unfold ScanResult.linked among
    rw [List.filter_filter, List.filter_filter]
    simp only [Bool.and_comm]
  unfold flagged
  rw [linked, filter_mergeSort_key Path.toString, List.filter_map]
  rfl

end ScanResult

/-- Modules without what is known only after linking. -/
def ModuleMap.bare (ms : ModuleMap) : ModuleMap :=
  ms.map fun e => (e.1, { e.2 with dependents := [] })

namespace Graph

variable {reader : TripleReader} {root : Path} {paths : List Path}

/-- The graph of files, if one comes of them. -/
def ofFiles (reader : TripleReader) (root : Path) (paths : List Path) : Graph :=
  ((paths.map (reader.intake root)).foldl take { root := root.toString }).link.tally

/-- A graph has the rows and the modules of files, and the entries of those that were refused. -/
structure MadeOf (g : Graph) (intakes : List Intake) : Prop where
  rows : ∀ row, row ∈ g.store.rows ↔ ∃ i ∈ intakes, row ∈ i.rows
  modules : g.modules.bare = (intakes.filterMap Intake.described?).map fun m => (m.path, m)
  errors : g.errors = intakes.filterMap Intake.error?

/-- The graph of a scan is that of the files with a block, unless one of them ends it all. -/
theorem ofScan_eq (scan : ScanResult) :
    ofScan reader root scan =
      match (scan.flagged.map (reader.intake root)).findSome? Intake.halt? with
      | some e => .error e
      | none => .ok (ofFiles reader root scan.flagged) := by
  unfold ofScan
  dsimp only
  change (ingestAll reader root { root := root.toString } scan.flagged).map _ = _
  rw [ingestAll_eq]
  cases (scan.flagged.map (reader.intake root)).findSome? Intake.halt? with
  | some e => rfl
  | none => rfl

/-- The modules that files describe are known by the paths of the files. -/
theorem described_sublist (paths : List Path) :
    (((paths.map (reader.intake root)).filterMap Intake.described?).map Module.path).Sublist
      (paths.map fun p => p.relativeText root) := by
  induction paths with
  | nil => exact List.Sublist.slnil
  | cons path rest ih =>
    rw [List.map_cons, List.map_cons, List.filterMap_cons]
    cases described : (reader.intake root path).described? with
    | none => exact ih.cons _
    | some m =>
      rw [List.map_cons, TripleReader.path_of_described described]
      exact ih.cons_cons _

/-- Linking adds dependents to modules and changes nothing else about them. -/
theorem bare_link {g : Graph} (h : g.Unlinked) : g.link.modules.bare = g.modules := by
  -- Before linking no module has dependents, so taking them away again gives the same modules.
  rw [link_eq_noted h, noted, ModuleMap.bare, List.map_map]
  refine (List.map_congr_left fun e member => ?_).trans (List.map_id g.modules)
  change (e.1, { e.2 with dependents := [] }) = e
  rw [← h.noDependents e member]

/-- What is the same however a reference is noted is the same after linking. -/
theorem link_keeps {α : Type} (view : Graph → α)
    (unresolved : ∀ g edges, view { g with unresolved := edges } = view g)
    (modules : ∀ g ms, view { g with modules := ms } = view g) (g : Graph) :
    view g.link = view g := by
  have one : ∀ (g : Graph) (edge : String × String), view (g.linkOne edge.1 edge.2) = view g := by
    intro g edge
    unfold linkOne
    split
    · exact modules g _
    · exact unresolved g _
  have all : ∀ (edges : List (String × String)) (g : Graph),
      view (edges.foldl (fun g edge => g.linkOne edge.1 edge.2) g) = view g := by
    intro edges
    induction edges with
    | nil => exact fun g => rfl
    | cons edge rest ih =>
      intro g
      rw [List.foldl_cons, ih, one]
  exact all _ g

/-- Before it is linked, the graph of files is an unlinked one. -/
theorem unlinked_foldl_take
    (goes : (paths.map (reader.intake root)).findSome? Intake.halt? = none) :
    ((paths.map (reader.intake root)).foldl take { root := root.toString }).Unlinked := by
  have taken : ingestAll reader root { root := root.toString } paths =
      .ok ((paths.map (reader.intake root)).foldl take { root := root.toString }) := by
    rw [ingestAll_eq, goes]
  exact unlinked_of_ingestAll taken

/-- What the graph of files is made of. -/
theorem madeOf_ofFiles (goes : (paths.map (reader.intake root)).findSome? Intake.halt? = none)
    (apart : (paths.map fun p => p.relativeText root).Nodup) :
    (ofFiles reader root paths).MadeOf (paths.map (reader.intake root)) := by
  constructor
  · intro row
    change row ∈ (Graph.link _).store.rows ↔ _
    rw [link_keeps Graph.store (fun _ _ => rfl) (fun _ _ => rfl), mem_rows_foldl_take]
    exact or_iff_right List.not_mem_nil
  · exact (bare_link (unlinked_foldl_take goes)).trans
      (modules_foldl_take (apart.sublist (described_sublist paths)))
  · exact (link_keeps Graph.errors (fun _ _ => rfl) (fun _ _ => rfl) _).trans (errors_foldl_take _)

/-- Files that are refused can be left out. The graph is the same, but for their entries on the
list of errors. -/
theorem ofScan_among {scan : ScanResult} {keep : Path → Bool}
    (goes : (scan.flagged.map (reader.intake root)).findSome? Intake.halt? = none)
    (refused : ∀ p ∈ scan.flagged, keep p = false →
      ∃ entry, reader.intake root p = .refused entry) :
    ofScan reader root (scan.among keep) =
      .ok ((ofFiles reader root scan.flagged).withErrors
        (((scan.flagged.filter keep).map (reader.intake root)).filterMap Intake.error?)) := by
  have goesAmong : ((scan.flagged.filter keep).map (reader.intake root)).findSome? Intake.halt? =
      none := by
    rw [List.findSome?_eq_none_iff] at goes ⊢
    intro i member
    obtain ⟨p, among, rfl⟩ := List.mem_map.mp member
    exact goes _ (List.mem_map_of_mem (List.mem_filter.mp among).1)
  have left := foldl_take_filter (g := { root := root.toString }) [] refused
  rw [ofScan_eq, ScanResult.flagged_among, goesAmong]
  dsimp only
  rw [ofFiles, ofFiles, ← tally_link_withErrors, ← List.nil_append (List.filterMap _ _), ← left]
  rfl

end Graph

namespace Site

variable {site : Site} {registry : Registry} {reader : TripleReader} {start path : Path}
  {o : BuildOptions} {plan : WalkPlan}

/-- A scan whose failures are tolerated finds what the events of its walk add up to, apart from the
order. -/
theorem scan_found {o : ScanOptions} (h : site.Reaches path o plan) (readable : plan.Readable)
    (tolerated : site.Tolerates registry o plan) (workers : 0 ≤ o.workers) :
    ∃ scan, site.scan registry path o = .ok scan ∧
      scan.files.Perm (ScanResult.ofEvents
        ((site.walkOf o plan).events (site.lookOf registry o))).files := by
  have staffed : 0 < o.workerCount site.processors := by
    unfold ScanOptions.workerCount
    split
    · omega
    · omega
  cases mode : o.concurrent with
  | false =>
    have alone := scan_sequential h readable tolerated
    rw [ScanOptions.withConcurrent, ← mode] at alone
    exact ⟨_, alone, List.Perm.refl _⟩
  | true =>
    obtain ⟨scan, found, alike⟩ := scan_concurrent h readable tolerated staffed
    rw [ScanOptions.withConcurrent, ← mode] at found
    exact ⟨scan, found, alike.files⟩

/-- The root of a walk starts with a slash. -/
theorem slashes_of_root (h : site.root path = .ok start) : start.slashes ≠ 0 := by
  unfold Site.root FileSystem.resolve at h
  split at h
  next root resolved =>
    cases h
    dsimp only at resolved
    split at resolved
    · cases resolved
    · split at resolved
      · cases resolved
      · cases resolved
        exact Nat.one_ne_zero
  · cases h
  · cases h

/-- The files with a block lie beneath the root of the walk. -/
theorem flagged_beneath {o : ScanOptions} {scan : ScanResult} (registry : Registry)
    (tree : site.files.WellFormed)
    (same : scan.files.Perm (ScanResult.ofEvents
      ((site.walkOf o plan).events (site.lookOf registry o))).files) :
    ∀ p ∈ scan.flagged, p.Beneath plan.root := by
  intro p member
  have sorted : scan.flagged.Perm (scan.linked.map FileRecord.path) := List.mergeSort_perm _ _
  obtain ⟨record, linked, rfl⟩ := List.mem_map.mp (sorted.mem_iff.mp member)
  have found := same.mem_iff.mp (List.mem_filter.mp linked).1
  exact WalkPlan.walk_beneath tree (path_mem_candidates found)

/-- The files with a block lie beneath the root of the walk, and none of them is found twice. -/
theorem flagged_apart {o : ScanOptions} {scan : ScanResult} (registry : Registry)
    (tree : site.files.WellFormed)
    (same : scan.files.Perm (ScanResult.ofEvents
      ((site.walkOf o plan).events (site.lookOf registry o))).files) :
    scan.flagged.Nodup ∧ ∀ p ∈ scan.flagged, p.Beneath plan.root := by
  have sorted : scan.flagged.Perm (scan.linked.map FileRecord.path) := List.mergeSort_perm _ _
  have paths := same.map FileRecord.path
  refine ⟨?_, flagged_beneath registry tree same⟩
  refine sorted.nodup_iff.mpr (List.Nodup.sublist (List.filter_sublist.map _) ?_)
  refine paths.nodup_iff.mpr (List.Nodup.sublist ?_ (plan.candidates_nodup tree o.followLinks))
  exact (site.walkOf o plan).files_sublist fun path => inspect_sublist path

/-- The result of a build without checks that has scanned its tree. -/
theorem build_result {scan : ScanResult} (begun : site.root start = .ok path)
    (found : site.scan registry path o.scan = .ok scan) (unchecked : o.validate = false) :
    (site.build registry reader start o).result =
      match (scan.flagged.map (reader.intake path)).findSome? Intake.halt? with
      | some e => .error (.ingest e)
      | none => .ok (Graph.ofFiles reader path scan.flagged) := by
  unfold build
  rw [begun]
  change (site.buildFrom registry reader path o).result = _
  rw [buildFrom_result reader o found, Graph.ofScan_eq]
  cases (scan.flagged.map (reader.intake path)).findSome? Intake.halt? with
  | some e => rfl
  | none =>
    dsimp only
    rw [Graph.finish, unchecked]
    rfl

/-- A build that is neither strict nor limits the number of errors nor checks its graph scans its
tree and takes in the files with a block, each of them once. It has a graph exactly if no file ends
it all, which a file does whose block never ends or has a triple without a subject or a predicate.

Then each of the files is taken in or refused. The graph has the rows of the files that are taken in,
and no others; it has the modules that they describe, and no others, in the order of the files and
but for what linking adds to them; and it has one entry on the list of errors for each file that is
refused, in the order of the files, and no others. If any of the files that are refused were not
there, the graph would be the same but for their entries. -/
theorem build_isolates (site : Site) (registry : Registry) (reader : TripleReader)
    (start path : Path) (o : BuildOptions) (plan : WalkPlan) (tree : site.files.WellFormed)
    (begun : site.root start = .ok path) (reaches : site.Reaches path o.scan plan)
    (readable : plan.Readable) (workers : 0 ≤ o.scan.workers) (tolerant : o.scan.strict = false)
    (unlimited : o.scan.maxErrors = 0) (unchecked : o.validate = false) :
    ∃ scan, site.scan registry path o.scan = .ok scan ∧ scan.flagged.Nodup ∧
      (∀ e, (scan.flagged.map (reader.intake path)).findSome? Intake.halt? = some e →
        (site.build registry reader start o).result = .error (.ingest e)) ∧
      ((scan.flagged.map (reader.intake path)).findSome? Intake.halt? = none →
        ∃ g, (site.build registry reader start o).result = .ok g ∧
          g.MadeOf (scan.flagged.map (reader.intake path)) ∧
          ∀ keep, (∀ p ∈ scan.flagged, keep p = false →
              ∃ entry, reader.intake path p = .refused entry) →
            Graph.ofScan reader path (scan.among keep) =
              .ok (g.withErrors (((scan.flagged.filter keep).map
                (reader.intake path)).filterMap Intake.error?))) := by
  have tolerated : site.Tolerates registry o.scan plan := ⟨tolerant, Or.inl unlimited⟩
  obtain ⟨scan, found, same⟩ := scan_found reaches readable tolerated workers
  obtain ⟨once, beneath⟩ := flagged_apart registry tree same
  refine ⟨scan, found, once, ?_, ?_⟩
  · intro e ends
    rw [build_result begun found unchecked, ends]
  · intro goes
    -- Modules are known by relative texts, so these have to differ and not only the paths.
    have rooted := slashes_of_root reaches.root
    have apart : (scan.flagged.map fun p => p.relativeText path).Nodup := by
      refine List.Nodup.map_on (fun p left q right text => ?_) once
      exact (beneath p left).eq_of_relativeText rooted path (beneath q right) text
    refine ⟨_, ?_, Graph.madeOf_ofFiles goes apart, fun keep => Graph.ofScan_among goes⟩
    rw [build_result begun found unchecked, goes]

end Site

/-! ## A good file and another one -/

/-- A file with a block. -/
def fileWith (block : String) : List UInt8 :=
  Block.startMarker.toUTF8.toList ++ (block.toUTF8.toList ++ Block.endMarker.toUTF8.toList)

/-- A file that starts with the mark of a block has the mark. -/
theorem hasStartMark_append (rest : List UInt8) :
    hasStartMark (Block.startMarker.toUTF8.toList ++ rest) = true :=
  (Text.occursIn_iff_isInfix _ _).mpr (List.prefix_append _ _).isInfix

namespace Site

/-- A directory with two files. -/
def duo (first second : List UInt8) : Site :=
  { files := ⟨[("src", .directory [("a.py", .file first 0), ("b.py", .file second 0)])]⟩ }

/-- Options for a scan of it without limits. -/
def duoOptions : ScanOptions :=
  { ignoreFiles := [], useDefaults := false, maxFileSize := 0, concurrent := false }

/-- The plan of that scan. -/
def duoPlan : WalkPlan :=
  ⟨⟨1, ["src"]⟩, [], []⟩

variable (first second : List UInt8)

/-- The directory and the files have names that differ where they have to. -/
theorem duo_wellFormed : (duo first second).files.WellFormed := by
  have one : EntryName "a.py" := by decide
  have two : EntryName "b.py" := by decide
  have top : EntryName "src" := by decide
  have src : (Entry.directory [("a.py", .file first 0), ("b.py", .file second 0)]).WellFormed :=
    Entry.wellFormed_of_leaves (by simp)
      (List.forall_mem_cons.mpr ⟨one, List.forall_mem_singleton.mpr two⟩) (by simp [Entry.isLeaf])
  exact .directory (List.nodup_singleton _) (List.forall_mem_singleton.mpr top)
    (List.forall_mem_singleton.mpr src)

/-- The walk over the tree of two files has the plan above. -/
theorem duo_reaches : (duo first second).Reaches ⟨1, ["src"]⟩ duoOptions duoPlan :=
  ⟨by cbv, by cbv, by cbv⟩

/-- There are no globs that could fail to compile. -/
theorem duo_readable : duoPlan.Readable :=
  ⟨fun _ impossible => absurd impossible List.not_mem_nil,
    fun _ impossible => absurd impossible List.not_mem_nil⟩

/-- The walk lists the directory and comes to both files, as there are no rules that could keep one
out. -/
theorem duo_visits : ((duo first second).walkOf duoOptions duoPlan).visits =
    [.listed ⟨1, ["src"]⟩, .candidate ⟨1, ["src", "a.py"]⟩, .candidate ⟨1, ["src", "b.py"]⟩] := by
  let files : List (String × Entry) := [("a.py", .file first 0), ("b.py", .file second 0)]
  have found : (duo first second).files.locate duoPlan.root = .ok (.directory files) := by cbv
  have ascends : (!decide ("b.py" < "a.py")) = true := by decide
  have listed : (duo first second).entriesOf duoPlan.root = .ok files := by
    rw [entriesOf, found]
    exact congrArg Except.ok (List.mergeSort_of_pairwise (List.pairwise_pair.mpr ascends))
  have kept : ∀ path, duoPlan.keeps path = true := fun path =>
    (WalkPlan.keeps_iff path).mpr (ite_self _)
  refine duo_readable.walk_of_files listed fun e member => ⟨kept _, ?_, rfl⟩
  rcases List.mem_pair.mp member with rfl | rfl
  · rfl
  · rfl

/-- The two files are where they were put. -/
theorem duo_located :
    (duo first second).files.locate ⟨1, ["src", "a.py"]⟩ = .ok (.file first 0) ∧
      (duo first second).files.locate ⟨1, ["src", "b.py"]⟩ = .ok (.file second 0) := by
  have tree := duo_wellFormed first second
  have one : (Entry.directory (duo first second).files.top).Holds ["src", "a.py"] (.file first 0) :=
    .down (List.mem_singleton_self _) (.down List.mem_cons_self (.here _))
  have two : (Entry.directory (duo first second).files.top).Holds ["src", "b.py"] (.file second 0) :=
    .down (List.mem_singleton_self _) (.down (List.mem_cons_of_mem _ List.mem_cons_self) (.here _))
  refine ⟨FileSystem.locate_of_holds _ tree ?_ ?_ one (by simp),
    FileSystem.locate_of_holds _ tree ?_ ?_ two (by simp)⟩ <;> decide

/-- The record of a file with a block. -/
def duoRecord (name : String) (content : List UInt8) : FileRecord :=
  ⟨⟨1, ["src", name]⟩, "Python", content.length, ⟨0⟩, true⟩

/-- A file with a block that a scan looks at has a record. -/
theorem duo_looks {name : String} {content : List UInt8} (marked : hasStartMark content = true)
    (located : (duo first second).files.locate ⟨1, ["src", name]⟩ = .ok (.file content 0))
    (python : Registry.standard.detect (Path.mk 1 ["src", name]).toString = "Python") :
    (duo first second).lookOf .standard duoOptions ⟨1, ["src", name]⟩ =
      [.scanned, .kept (duoRecord name content)] := by
  have status : (duo first second).status ⟨1, ["src", name]⟩ = .ok ⟨content, 0⟩ := by
    unfold Site.status
    rw [located]
    rfl
  have dated : Timestamp.ofNanoseconds 0 = .ok ⟨0⟩ := by decide +kernel
  have detected : (duo first second).detect ⟨1, ["src", name]⟩ content = .ok true :=
    congrArg Except.ok marked
  have made : (duo first second).examine ⟨1, ["src", name]⟩ "Python" ⟨content, 0⟩ =
      .ok (duoRecord name content) :=
    examine_eq_ok_iff.mpr ⟨true, detected, makeRecord_eq_ok_iff.mpr ⟨_, dated, rfl⟩⟩
  have admitted : (duoOptions.criteria .standard).admits "Python" content.length = true := by
    simp [Criteria.admits, ScanOptions.criteria, duoOptions, unknownLanguage]
  have registry : (duoOptions.criteria .standard).registry = .standard := rfl
  unfold lookOf inspect stepsAt
  rw [status]
  simp only [registry, python, admitted, if_true, made]
  rfl

/-- What a scan finds if both files have a block. -/
def duoFound : ScanResult :=
  { files := [duoRecord "a.py" first, duoRecord "b.py" second], scanned := 2 }

/-- When both files are marked, the scan returns both. -/
theorem duo_scan (marked : hasStartMark first = true) (markedToo : hasStartMark second = true) :
    (duo first second).scan .standard ⟨1, ["src"]⟩ duoOptions = .ok (duoFound first second) := by
  have tolerated : (duo first second).Tolerates .standard duoOptions duoPlan := ⟨rfl, Or.inl rfl⟩
  have found := scan_sequential (duo_reaches first second) duo_readable tolerated
  obtain ⟨one, two⟩ := duo_located first second
  have here := duo_looks first second marked one (by decide)
  have there := duo_looks first second markedToo two (by decide)
  refine found.trans ?_
  rw [Walk.events, duo_visits]
  simp only [List.flatMap_cons, List.flatMap_nil, Visit.events, here, there]
  rfl

/-- The files are read in the order of their names. -/
theorem duo_flagged : (duoFound first second).flagged =
    [⟨1, ["src", "a.py"]⟩, ⟨1, ["src", "b.py"]⟩] := by
  have ascends : (!decide ((Path.mk 1 ["src", "b.py"]).toString <
      (Path.mk 1 ["src", "a.py"]).toString)) = true := by decide
  exact List.mergeSort_of_pairwise (List.pairwise_pair.mpr ascends)

end Site

/-- What becomes of a file below the root with these bytes. -/
def intakeOf (name : String) (bytes : List UInt8) : Intake :=
  TripleReader.intake (fun _ => (Block.parseBytes bytes).mapError .ofBlock) ⟨1, ["src"]⟩
    ⟨1, ["src", name]⟩

/-- What becomes of a file depends on its bytes. -/
theorem FileSystem.intake_eq {files : FileSystem} {name : String} {bytes : List UInt8}
    {modified : Int} (located : files.locate ⟨1, ["src", name]⟩ = .ok (.file bytes modified)) :
    files.tripleReader.intake ⟨1, ["src"]⟩ ⟨1, ["src", name]⟩ = intakeOf name bytes := by
  unfold intakeOf TripleReader.intake FileSystem.tripleReader FileSystem.read
  rw [located]

/-- A file that describes a module. -/
def goodFile : List UInt8 :=
  fileWith "<m> a code:Module ."

/-- What becomes of it. -/
def goodIntake : Intake :=
  .taken [⟨"m", Block.typePredicate, "https://schema.codedoc.org/Module"⟩]
    (some { path := "b.py", uri := "m" })

/-- A file with a block in the language whose only triple has an empty subject. -/
def namelessFile : List UInt8 :=
  fileWith "<> a code:Module ."

/-- A file with the start of a block, and nothing behind it but the end of the line. -/
def unclosedFile : List UInt8 :=
  Block.startMarker.toUTF8.toList ++ "\n".toUTF8.toList

/-- The entry of it. -/
def unclosedEntry : CollectedError :=
  { file := "/src/a.py"
    message := "parse error at line 1: LinkedDoc block not closed (missing " ++ Block.endMarker ++ ")"
    line := some 1
    cause := some .grammar }

/-- The good file is taken in. Of the others, the one ends it all and the other is refused. -/
theorem intakes_of_files :
    intakeOf "b.py" goodFile = goodIntake ∧
      intakeOf "a.py" namelessFile = .halts (.store .incompleteRow) ∧
      intakeOf "a.py" unclosedFile = .refused unclosedEntry := by
  decide +kernel

namespace Site

/-- What becomes of the two files depends on their bytes. -/
theorem duo_intakes_eq (first second : List UInt8) :
    [⟨1, ["src", "a.py"]⟩, ⟨1, ["src", "b.py"]⟩].map
        ((duo first second).files.tripleReader.intake ⟨1, ["src"]⟩) =
      [intakeOf "a.py" first, intakeOf "b.py" second] := by
  obtain ⟨one, two⟩ := duo_located first second
  rw [List.map_cons, List.map_cons, List.map_nil, FileSystem.intake_eq one,
    FileSystem.intake_eq two]

/-- A build of two files with a block, neither of which ends it all, has the graph of both. -/
theorem duo_build {first second : List UInt8} (marked : hasStartMark first = true)
    (markedToo : hasStartMark second = true) (goes : (intakeOf "a.py" first).halt? = none)
    (goesToo : (intakeOf "b.py" second).halt? = none) :
    ((duo first second).build .standard (duo first second).files.tripleReader ⟨1, ["src"]⟩
        { scan := duoOptions }).result =
      .ok (Graph.ofFiles (duo first second).files.tripleReader ⟨1, ["src"]⟩
        [⟨1, ["src", "a.py"]⟩, ⟨1, ["src", "b.py"]⟩]) := by
  have begun : (duo first second).root ⟨1, ["src"]⟩ = .ok ⟨1, ["src"]⟩ :=
    (duo_reaches first second).root
  have found := duo_scan first second marked markedToo
  have both : [intakeOf "a.py" first, intakeOf "b.py" second].findSome? Intake.halt? = none := by
    rw [List.findSome?_cons, goes, List.findSome?_cons, goesToo]
    rfl
  rw [build_result (o := { scan := duoOptions }) begun found rfl, duo_flagged, duo_intakes_eq, both]

/-- What becomes of the two files, the second of which is good. -/
theorem duo_intakes (first : List UInt8) :
    (duoFound first goodFile).flagged.map
        ((duo first goodFile).files.tripleReader.intake ⟨1, ["src"]⟩) =
      [intakeOf "a.py" first, goodIntake] := by
  rw [duo_flagged, duo_intakes_eq, intakes_of_files.1]

/-- The block of the one file is in the language, but its triple cannot be stored. There is no
graph, not even of the good file next to it. -/
theorem build_of_nameless :
    ((duo namelessFile goodFile).build .standard (duo namelessFile goodFile).files.tripleReader
      ⟨1, ["src"]⟩ { scan := duoOptions }).result = .error (.ingest (.store .incompleteRow)) := by
  have begun : (duo namelessFile goodFile).root ⟨1, ["src"]⟩ = .ok ⟨1, ["src"]⟩ :=
    (duo_reaches namelessFile goodFile).root
  have found := duo_scan namelessFile goodFile (hasStartMark_append _) (hasStartMark_append _)
  obtain ⟨-, halts, -⟩ := intakes_of_files
  rw [build_result (o := { scan := duoOptions }) begun found rfl, duo_intakes, halts]
  rfl

/-- The start of a block next to a good file leaves one entry on the list of errors, and the module
and the row of the good file are there. -/
theorem build_isolates_in_duo :
    ∃ g, ((duo unclosedFile goodFile).build .standard (duo unclosedFile goodFile).files.tripleReader
        ⟨1, ["src"]⟩ { scan := duoOptions }).result = .ok g ∧
      (∀ row, row ∈ g.store.rows ↔ row ∈ goodIntake.rows) ∧
      g.modules.bare = [("b.py", { path := "b.py", uri := "m" })] ∧
      g.errors = [unclosedEntry] := by
  have found := duo_scan unclosedFile goodFile (hasStartMark_append _) (hasStartMark_append _)
  obtain ⟨-, -, refused⟩ := intakes_of_files
  have reaches := duo_reaches unclosedFile goodFile
  obtain ⟨scan, returned, -, -, goesOn⟩ := build_isolates (duo unclosedFile goodFile) .standard
    (duo unclosedFile goodFile).files.tripleReader ⟨1, ["src"]⟩ ⟨1, ["src"]⟩
    { scan := duoOptions } duoPlan (duo_wellFormed unclosedFile goodFile) reaches.root reaches
    duo_readable (by decide) rfl rfl rfl
  obtain rfl : scan = _ := Except.ok.inj (returned.symm.trans found)
  rw [duo_intakes, refused] at goesOn
  obtain ⟨g, result, made, -⟩ := goesOn rfl
  refine ⟨g, result, fun row => ?_, made.modules, made.errors⟩
  rw [made.rows]
  simp [Intake.rows]

end Site

end DocGraph
