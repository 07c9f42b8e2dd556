import DocGraph.Proofs.Fallible
import DocGraph.Proofs.Scan.Events
import DocGraph.Proofs.Scan.Traversal
import Mathlib

/-!
# From options to a plan

Before a scan walks, it resolves its root, looks whether the root is there, and collects the rules.
`Site.Reaches` says that all this works out and gives a plan. A scan that reaches a plan is the
scan according to it, and a scan that does not fails in the same way whether or not it has workers.

Of what a scan finds out about a file, only the path is needed to put files in order, and the record
of a file has the path at which the file was looked at.
-/

set_option autoImplicit false

namespace DocGraph

/-- A scan from a path with some options gets as far as a plan. -/
structure Site.Reaches (site : Site) (path : Path) (o : ScanOptions) (plan : WalkPlan) : Prop where
  root : site.root path = .ok plan.root
  there : site.checkRoot plan.root = .ok ()
  planned : site.plan plan.root o = .ok plan

/-- The same options with or without workers. -/
def ScanOptions.withConcurrent (o : ScanOptions) (concurrent : Bool) : ScanOptions :=
  { o with concurrent }

namespace Site

/-- The walk of a scan according to a plan. -/
def walkOf (site : Site) (o : ScanOptions) (plan : WalkPlan) : Walk :=
  plan.walk site o.followLinks

/-- How a scan looks at a file. -/
def lookOf (site : Site) (registry : Registry) (o : ScanOptions) : Path → List ScanEvent :=
  site.inspect (o.criteria registry)

/-- A scan according to a plan goes on after as many failures as it comes to: no failure ends it by
itself, and there is no limit to their number or a higher one. -/
def Tolerates (site : Site) (registry : Registry) (o : ScanOptions) (plan : WalkPlan) : Prop :=
  o.policy.Tolerates ((site.walkOf o plan).failures (site.lookOf registry o))

variable {site : Site} {path : Path} {o : ScanOptions} {plan : WalkPlan}

/-- A plan is for the root that it is asked for, and includes what the options say. -/
theorem exists_of_plan {root : Path} (h : site.plan root o = .ok plan) :
    ∃ rules, plan = ⟨root, rules, o.includePatterns⟩ := by
  obtain ⟨found, -, rfl⟩ := map_eq_ok_iff.mp h
  exact ⟨found, rfl⟩

/-- A plan is for the root that it was made for. -/
theorem root_of_plan {root : Path} (h : site.plan root o = .ok plan) : plan.root = root := by
  obtain ⟨rules, rfl⟩ := exists_of_plan h
  rfl

/-- If there is no plan, then one of the ignore files is to blame. -/
theorem exists_file_of_plan_error {root : Path} {e : ScanError} (h : site.plan root o = .error e) :
    ∃ name ∈ o.ignoreFiles, site.rulesOfFile (root.join (Path.ofString name)) = .error e := by
  rw [Site.plan, rules, rulesOfFiles] at h
  simp only [map_eq_error_iff] at h
  exact exists_of_mapM_error h

/-- A plan is reached with workers if it is reached without, and the other way round. -/
theorem reaches_withConcurrent (concurrent : Bool) :
    site.Reaches path (o.withConcurrent concurrent) plan ↔ site.Reaches path o plan :=
  ⟨fun h => ⟨h.root, h.there, h.planned⟩, fun h => ⟨h.root, h.there, h.planned⟩⟩

/-- At most one plan is reached. -/
theorem Reaches.unique (h : site.Reaches path o plan) {other : WalkPlan}
    (h' : site.Reaches path o other) : other = plan := by
  have root : plan.root = other.root := Except.ok.inj (h.root.symm.trans h'.root)
  have planned := h.planned
  rw [root] at planned
  exact Except.ok.inj (h'.planned.symm.trans planned)

/-- A scan that reaches a plan is the scan according to it, if it has no workers or more than
none. -/
theorem Reaches.scan_eq (h : site.Reaches path o plan) (registry : Registry)
    (able : o.concurrent = false ∨ 0 < o.workerCount site.processors) :
    site.scan registry path o = site.scanPlanned registry plan o := by
  have allowed : (o.concurrent && decide (o.workerCount site.processors ≤ 0)) = false := by
    rcases able with alone | several
    · rw [alone, Bool.false_and]
    · rw [Bool.and_eq_false_iff, decide_eq_false_iff_not]
      exact Or.inr (by omega)
  unfold Site.scan
  rw [h.root]
  simp only [bind, Except.bind, h.there, h.planned]
  rw [allowed]
  rfl

/-- A scan that reaches no plan fails in the same way with and without workers. -/
theorem scan_unreached (registry : Registry) (h : ∀ plan, ¬site.Reaches path o plan) :
    ∃ e, ∀ concurrent, site.scan registry path (o.withConcurrent concurrent) = .error e := by
  cases resolved : site.root path with
  | error e =>
    refine ⟨e, fun concurrent => ?_⟩
    unfold Site.scan
    rw [resolved]
    rfl
  | ok root =>
    cases there : site.checkRoot root with
    | error e =>
      refine ⟨e, fun concurrent => ?_⟩
      unfold Site.scan
      rw [resolved]
      simp only [bind, Except.bind, there]
    | ok present =>
      cases planned : site.plan root o with
      | error e =>
        refine ⟨e, fun concurrent => ?_⟩
        have same : site.plan root (o.withConcurrent concurrent) = .error e := planned
        unfold Site.scan
        rw [resolved]
        simp only [bind, Except.bind, there, same]
      | ok plan =>
        obtain rfl := root_of_plan planned
        exact absurd ⟨resolved, there, planned⟩ (h plan)

/-- A file is admitted if its language is known and it is not too large. -/
theorem admits_iff {criteria : Criteria} (language : String) (size : Nat) :
    criteria.admits language size = true ↔
      language ≠ unknownLanguage ∧
        (criteria.maxFileSize = 0 ∨ (size : Int) ≤ criteria.maxFileSize) := by
  simp [Criteria.admits]

/-- A file that was modified at a time that has a date has a record. -/
theorem makeRecord_eq_ok_iff {language : String} {file : FileStatus} {hasBlock : Bool}
    {record : FileRecord} :
    makeRecord path language file hasBlock = .ok record ↔
      ∃ modified, Timestamp.ofNanoseconds file.modified = .ok modified ∧
        record = ⟨path, language, file.content.length, modified, hasBlock⟩ := by
  unfold makeRecord
  generalize Timestamp.ofNanoseconds file.modified = date
  cases date with
  | error year =>
    constructor
    · intro h
      cases h
    · rintro ⟨modified, impossible, -⟩
      cases impossible
  | ok modified =>
    constructor
    · intro h
      cases h
      exact ⟨modified, rfl, rfl⟩
    · rintro ⟨same, dated, rfl⟩
      cases dated
      rfl

/-- A file that can be searched for a block has the record that says whether there is one. -/
theorem examine_eq_ok_iff {language : String} {file : FileStatus} {record : FileRecord} :
    site.examine path language file = .ok record ↔
      ∃ hasBlock, site.detect path file.content = .ok hasBlock ∧
        makeRecord path language file hasBlock = .ok record := by
  unfold examine
  cases site.detect path file.content with
  | error failure =>
    constructor
    · intro h
      cases h
    · rintro ⟨hasBlock, impossible, -⟩
      cases impossible
  | ok hasBlock =>
    constructor
    · intro h
      exact ⟨hasBlock, rfl, h⟩
    · rintro ⟨same, detected, made⟩
      cases detected
      exact made

/-- What happens when a scan comes to a file, in four cases. -/
theorem inspect_cases (site : Site) (criteria : Criteria) (path : Path) :
    (∃ fault, site.status path = .error fault ∧
      site.inspect criteria path = [.failed path (fault.failureAt path) fault.code?.isSome]) ∨
    ∃ file, site.status path = .ok file ∧
      (criteria.admits (criteria.registry.detect path.toString) file.content.length = false ∧
        site.inspect criteria path = [.scanned] ∨
      criteria.admits (criteria.registry.detect path.toString) file.content.length = true ∧
        ((∃ record,
            site.examine path (criteria.registry.detect path.toString) file = .ok record ∧
            site.inspect criteria path = [.scanned, .kept record]) ∨
          ∃ failure,
            site.examine path (criteria.registry.detect path.toString) file = .error failure ∧
            site.inspect criteria path = [.scanned, .failed path failure false])) := by
  unfold inspect stepsAt
  cases site.status path with
  | error fault => exact Or.inl ⟨fault, rfl, rfl⟩
  | ok file =>
    refine Or.inr ⟨file, rfl, ?_⟩
    dsimp only
    by_cases admitted :
        criteria.admits (criteria.registry.detect path.toString) file.content.length = true
    · refine Or.inr ⟨admitted, ?_⟩
      rw [if_pos admitted]
      cases examined : site.examine path (criteria.registry.detect path.toString) file with
      | error failure => exact Or.inr ⟨failure, rfl, rfl⟩
      | ok record => exact Or.inl ⟨record, rfl, rfl⟩
    · rw [if_neg admitted]
      exact Or.inl ⟨Bool.not_eq_true _ ▸ admitted, rfl⟩

/-- A record is kept of a file that can be found and read, is admitted, and has a record. -/
theorem kept_mem_inspect_iff {criteria : Criteria} {record : FileRecord} :
    .kept record ∈ site.inspect criteria path ↔
      ∃ file, site.status path = .ok file ∧
        criteria.admits (criteria.registry.detect path.toString) file.content.length = true ∧
        site.examine path (criteria.registry.detect path.toString) file = .ok record := by
  rcases site.inspect_cases criteria path with ⟨fault, none_, fails⟩ | ⟨file, found,
    ⟨refused, skipped⟩ | ⟨admitted, ⟨other, examined, kept⟩ | ⟨failure, examined, fails⟩⟩⟩
  · simp [fails, none_]
  · simp [skipped, found, refused]
  · rw [kept]
    constructor
    · intro own
      obtain rfl : record = other := by simpa using own
      exact ⟨file, found, admitted, examined⟩
    · rintro ⟨same, found', -, examined'⟩
      obtain rfl := Except.ok.inj (found.symm.trans found')
      obtain rfl := Except.ok.inj (examined.symm.trans examined')
      exact List.mem_cons_of_mem _ List.mem_cons_self
  · simp [fails, found, examined]

/-- The record that is kept of a file is that of its path. -/
theorem path_of_inspect {criteria : Criteria} {record : FileRecord}
    (h : .kept record ∈ site.inspect criteria path) : record.path = path := by
  obtain ⟨file, -, -, examined⟩ := kept_mem_inspect_iff.mp h
  obtain ⟨hasBlock, -, made⟩ := examine_eq_ok_iff.mp examined
  obtain ⟨modified, -, rfl⟩ := makeRecord_eq_ok_iff.mp made
  rfl

/-- The files that a walk keeps are candidates of the walk. -/
theorem path_mem_candidates {criteria : Criteria} {walk : Walk} {record : FileRecord}
    (h : record ∈ (ScanResult.ofEvents (walk.events (site.inspect criteria))).files) :
    .candidate record.path ∈ walk.visits := by
  obtain ⟨path, visited, keeps⟩ := Walk.mem_files_iff.mp h
  rw [path_of_inspect keeps]
  exact visited

/-! ## A small scan -/

/-- A directory with two files, one of which the file system says nothing about. -/
def pair : Site :=
  { files := ⟨[("src", .directory [("b.py", .file [] 0), ("a.py", .file [10] 1700000000123456789)])]⟩
    obstacles :=
      { status := fun p => if p.name = "b.py" then some ⟨.permissionDenied, rfl⟩ else none } }

/-- Options for a scan of it with two workers that allows one failure. -/
def pairOptions : ScanOptions :=
  { includePatterns := ["*.py"], excludePatterns := ["*.log"], ignoreFiles := [],
    useDefaults := false, workers := 2, maxErrors := 2 }

/-- The plan of that scan. -/
def pairPlan : WalkPlan :=
  ⟨⟨1, ["src"]⟩, ["*.log"], ["*.py"]⟩

/-- The directory and the files have names that differ where they have to. -/
theorem pair_wellFormed : pair.files.WellFormed := by
  refine .directory (by decide) (by decide) (List.forall_mem_singleton.mpr ?_)
  exact Entry.wellFormed_of_leaves (by decide) (by decide) (by decide)

/-- The plan is reached. -/
theorem pair_reaches : pair.Reaches ⟨1, ["src"]⟩ pairOptions pairPlan :=
  ⟨by cbv, by cbv, by cbv⟩

/-- Both globs compile. -/
theorem pair_readable : pairPlan.Readable := by
  have log : Glob.Compiles "*.log" := ⟨_, by cbv⟩
  have python : Glob.Compiles "*.py" := ⟨_, by cbv⟩
  refine ⟨?_, ?_⟩
  · intro rule member _
    obtain rfl : rule = "*.log" := List.mem_singleton.mp member
    exact log
  · intro pattern member
    obtain rfl : pattern = "*.py" := List.mem_singleton.mp member
    exact python

/-- The walk lists the directory and comes to both files. -/
theorem pair_visits : (pair.walkOf pairOptions pairPlan).visits =
    [.listed ⟨1, ["src"]⟩, .candidate ⟨1, ["src", "a.py"]⟩, .candidate ⟨1, ["src", "b.py"]⟩] := by
  have listed : pair.entriesOf pairPlan.root =
      .ok [("a.py", .file [10] 1700000000123456789), ("b.py", .file [] 0)] := by cbv
  exact pair_readable.walk_of_files listed (by decide +kernel)

/-- The one file has a record. -/
theorem pair_looks : pair.lookOf .standard pairOptions ⟨1, ["src", "a.py"]⟩ =
    [.scanned, .kept ⟨⟨1, ["src", "a.py"]⟩, "Python", 1, ⟨1700000000123457⟩, false⟩] := by
  have status : pair.status ⟨1, ["src", "a.py"]⟩ = .ok ⟨[10], 1700000000123456789⟩ := by cbv
  have language : Registry.standard.detect (Path.mk 1 ["src", "a.py"]).toString = "Python" := by
    decide +kernel
  have detected : pair.detect ⟨1, ["src", "a.py"]⟩ [10] = .ok false := by cbv
  have dated : Timestamp.ofNanoseconds 1700000000123456789 = .ok ⟨1700000000123457⟩ := by
    decide +kernel
  have made : pair.examine ⟨1, ["src", "a.py"]⟩ "Python" ⟨[10], 1700000000123456789⟩ =
      .ok ⟨⟨1, ["src", "a.py"]⟩, "Python", 1, ⟨1700000000123457⟩, false⟩ :=
    examine_eq_ok_iff.mpr ⟨false, detected, makeRecord_eq_ok_iff.mpr ⟨_, dated, rfl⟩⟩
  have admitted : (pairOptions.criteria .standard).admits "Python" 1 = true := by cbv
  have registry : (pairOptions.criteria .standard).registry = .standard := rfl
  unfold lookOf inspect stepsAt
  rw [status]
  simp only [registry, language, List.length_singleton, admitted, if_true, made]
  rfl

/-- The other one cannot be looked at. -/
theorem pair_fails : pair.lookOf .standard pairOptions ⟨1, ["src", "b.py"]⟩ =
    [.failed ⟨1, ["src", "b.py"]⟩
      (SystemFault.permissionDenied.failureAt ⟨1, ["src", "b.py"]⟩) true] := by
  cbv

/-- The record of the one file is what the scan finds. -/
theorem pair_found : ⟨⟨1, ["src", "a.py"]⟩, "Python", 1, ⟨1700000000123457⟩, false⟩ ∈
    (ScanResult.ofEvents ((pair.walkOf pairOptions pairPlan).events
      (pair.lookOf .standard pairOptions))).files := by
  have visited : .candidate ⟨1, ["src", "a.py"]⟩ ∈ (pair.walkOf pairOptions pairPlan).visits := by
    rw [pair_visits]
    exact List.mem_cons_of_mem _ List.mem_cons_self
  have kept : .kept ⟨⟨1, ["src", "a.py"]⟩, "Python", 1, ⟨1700000000123457⟩, false⟩ ∈
      pair.lookOf .standard pairOptions ⟨1, ["src", "a.py"]⟩ := by
    rw [pair_looks]
    exact List.mem_cons_of_mem _ List.mem_cons_self
  exact Walk.mem_files_iff.mpr ⟨_, visited, kept⟩

/-- The other one is its only failure. -/
theorem pair_failures :
    (pair.walkOf pairOptions pairPlan).failures (pair.lookOf .standard pairOptions) = 1 := by
  rw [Walk.failures, Walk.events, pair_visits]
  simp only [List.flatMap_cons, List.flatMap_nil, Visit.events, pair_looks, pair_fails]
  rfl

/-- That failure is tolerated. -/
theorem pair_tolerates : pair.Tolerates .standard pairOptions pairPlan := by
  refine ⟨rfl, Or.inr ?_⟩
  rw [pair_failures]
  decide

end Site

end DocGraph
