import DocGraph.Build
import DocGraph.Proofs.Sorting
import DocGraph.Proofs.Scan.Interleaving
import DocGraph.Proofs.Scan.Planned

/-!
# Scans with and without workers agree

The same tree is scanned once along the walk and once with workers, in whatever order the walker
and the workers go on. `interleavings_agree` says that this makes no difference but for the order
of files and errors, and none at all for the graph that is built from the scan.

The graph does not depend on the order because files are taken in by the text of their paths. The
texts of two paths below one root differ if the paths do, so the sorted list of files is the same
whatever it was sorted from.
-/

set_option autoImplicit false

namespace DocGraph

/-- Results with the same files in another order give the same graph if the files can be told apart
by the texts of their paths. -/
theorem Graph.ofScan_alike (reader : TripleReader) (root : Path) {first second : ScanResult}
    (h : first.Alike second)
    (apart : ∀ a ∈ second.files, ∀ b ∈ second.files,
      a.path.toString = b.path.toString → a.path = b.path) :
    Graph.ofScan reader root first = Graph.ofScan reader root second := by
  have paths : (second.linked.map FileRecord.path).Perm (first.linked.map FileRecord.path) :=
    ((h.files.symm.filter _).map _)
  have ordered := mergeSort_key_eq_of_perm Path.toString paths (by
    intro a left b right same
    obtain ⟨one, hasOne, rfl⟩ := List.mem_map.mp left
    obtain ⟨other, hasOther, rfl⟩ := List.mem_map.mp right
    exact apart one (List.mem_filter.mp hasOne).1 other (List.mem_filter.mp hasOther).1 same)
  simp only [Graph.ofScan]
  rw [ordered]

/-- A scan along a walk with workers, whose failures are tolerated, finds what the events of the
walk add up to, apart from the order. -/
theorem Walk.scanWithWorkers_alike {policy : AbortPolicy} {look : Path → List ScanEvent}
    {walk : Walk} (whole : walk.broken = none) (tolerated : policy.Tolerates (walk.failures look))
    {workers : Nat} (some_ : 0 < workers) :
    ∃ result, walk.scanWithWorkers policy look workers = .ok result ∧
      result.Alike (.ofEvents (walk.events look)) := by
  have busy : 0 < min workers (walk.visits.length + 1) := lt_min some_ (Nat.succ_pos _)
  obtain ⟨taken, runs⟩ := @Pool.runs_run policy look
    (Pool.start walk (min workers (walk.visits.length + 1)))
  have accounted := Pool.accounted_of_runs whole tolerated runs
  have ended := accounted.ended_of_stuck busy (Pool.stuck_of_next (Pool.next_run _))
  refine ⟨_, ?_, accounted.result_alike busy ended⟩
  simp only [Walk.scanWithWorkers, accounted.broken_eq_none, ScanState.outcome,
    accounted.not_aborted tolerated]

/-- Checking a graph gives it back or finds it invalid. -/
theorem Graph.finish_result (g : Graph) (validate : Bool) :
    (g.finish validate).result = .ok g ∨
      (g.finish validate).result = .error (.invalid g g.validate) := by
  unfold Graph.finish
  cases validate with
  | false => exact Or.inl rfl
  | true =>
    dsimp only
    rw [if_pos rfl]
    split
    · split
      · exact Or.inl rfl
      · exact Or.inl rfl
    · exact Or.inr rfl

namespace Site

variable {site : Site} {registry : Registry} {path : Path} {o : ScanOptions} {plan : WalkPlan}

/-- The files of a scan can be told apart by the texts of their paths. -/
theorem texts_apart (tree : site.files.WellFormed) :
    ∀ a ∈ (ScanResult.ofEvents ((site.walkOf o plan).events (site.lookOf registry o))).files,
    ∀ b ∈ (ScanResult.ofEvents ((site.walkOf o plan).events (site.lookOf registry o))).files,
      a.path.toString = b.path.toString → a.path = b.path := by
  intro a left b right same
  have below : a.path.Beneath plan.root := WalkPlan.walk_beneath tree (path_mem_candidates left)
  have beside : b.path.Beneath plan.root := WalkPlan.walk_beneath tree (path_mem_candidates right)
  exact below.eq_of_toString beside same

/-- Without workers, a scan whose failures are tolerated finds what the events of its walk add up
to. -/
theorem scan_sequential (h : site.Reaches path o plan) (readable : plan.Readable)
    (tolerated : site.Tolerates registry o plan) :
    site.scan registry path (o.withConcurrent false) =
      .ok (.ofEvents ((site.walkOf o plan).events (site.lookOf registry o))) := by
  have reached := (reaches_withConcurrent false).mpr h
  rw [reached.scan_eq registry (Or.inl rfl)]
  exact Walk.scan_eq (readable.walk_broken site o.followLinks) tolerated

/-- With workers, what it finds is the same apart from the order. -/
theorem scan_concurrent (h : site.Reaches path o plan) (readable : plan.Readable)
    (tolerated : site.Tolerates registry o plan) (some_ : 0 < o.workerCount site.processors) :
    ∃ result, site.scan registry path (o.withConcurrent true) = .ok result ∧
      result.Alike (.ofEvents ((site.walkOf o plan).events (site.lookOf registry o))) := by
  have reached := (reaches_withConcurrent true).mpr h
  have several : 0 < (o.workerCount site.processors).toNat := by omega
  rw [reached.scan_eq registry (Or.inr some_)]
  exact Walk.scanWithWorkers_alike (readable.walk_broken site o.followLinks) tolerated several

/-- What is built does not depend on the order of the files and errors that a scan found. -/
theorem buildFrom_result (reader : TripleReader) (o : BuildOptions) {result : ScanResult}
    (h : site.scan registry path o.scan = .ok result) :
    (site.buildFrom registry reader path o).result =
      match Graph.ofScan reader path result with
      | .error e => .error (.ingest e)
      | .ok g => (g.finish o.validate).result := by
  unfold buildFrom
  rw [h]
  dsimp only
  cases Graph.ofScan reader path result with
  | error e => rfl
  | ok g => rfl

/-- A build has the same result with and without workers, if it has any workers at all. -/
theorem build_concurrent (reader : TripleReader) (o : BuildOptions) {start : Path}
    (tree : site.files.WellFormed) (begun : site.root start = .ok path)
    (readable : ∀ plan, site.Reaches path o.scan plan → plan.Readable)
    (tolerated : ∀ plan, site.Reaches path o.scan plan → site.Tolerates registry o.scan plan)
    (some_ : 0 < o.scan.workerCount site.processors) :
    (site.build registry reader start { o with scan := o.scan.withConcurrent true }).result =
      (site.build registry reader start { o with scan := o.scan.withConcurrent false }).result := by
  unfold build
  rw [begun]
  change (site.buildFrom registry reader path _).result =
    (site.buildFrom registry reader path _).result
  by_cases reached : ∃ plan, site.Reaches path o.scan plan
  · obtain ⟨plan, reaches⟩ := reached
    have alone := scan_sequential reaches (readable plan reaches)
      (tolerated plan reaches)
    obtain ⟨result, together, alike⟩ := scan_concurrent reaches
      (readable plan reaches) (tolerated plan reaches) some_
    rw [buildFrom_result reader { o with scan := o.scan.withConcurrent true } together,
      buildFrom_result reader { o with scan := o.scan.withConcurrent false } alone,
      Graph.ofScan_alike reader path alike (texts_apart tree)]
  · obtain ⟨e, fails⟩ := scan_unreached registry fun plan reaches => reached ⟨plan, reaches⟩
    unfold buildFrom
    rw [fails true, fails false]

/-- However the walker and the workers of a scan go on, and whatever their number, a run that
cannot go on has ended, and one that has ended has come to each candidate of the walk once and
found what the scan without workers finds: the same files and errors in some order, the same
counts, and the same graph. A build has the same result with and without workers.

This is for a readable plan and options that tolerate as many failures as there are. -/
theorem interleavings_agree (site : Site) (registry : Registry) (reader : TripleReader)
    (path : Path) (o : BuildOptions) (tree : site.files.WellFormed)
    (readable : ∀ plan, site.Reaches path o.scan plan → plan.Readable)
    (tolerated : ∀ plan, site.Reaches path o.scan plan → site.Tolerates registry o.scan plan) :
    (∀ plan, site.Reaches path o.scan plan → ∃ sequential,
      site.scan registry path (o.scan.withConcurrent false) = .ok sequential ∧
      ∀ workers taken pool, 0 < workers →
        Pool.Runs o.scan.policy (site.lookOf registry o.scan)
          (Pool.start (site.walkOf o.scan plan) workers) taken pool →
        ((∀ turn, pool.turn o.scan.policy (site.lookOf registry o.scan) turn = none) →
          pool.Ended) ∧
        (pool.Ended →
          taken = (site.walkOf o.scan plan).candidates ∧ pool.state.abort = none ∧
          pool.broken = none ∧ pool.state.result.Alike sequential ∧
          Graph.ofScan reader path pool.state.result =
            Graph.ofScan reader path sequential)) ∧
    ∀ start, site.root start = .ok path → 0 < o.scan.workerCount site.processors →
      (site.build registry reader start { o with scan := o.scan.withConcurrent true }).result =
        (site.build registry reader start { o with scan := o.scan.withConcurrent false }).result := by
  constructor
  · intro plan reaches
    have whole := (readable plan reaches).walk_broken site o.scan.followLinks
    refine ⟨_, scan_sequential reaches (readable plan reaches) (tolerated plan reaches), ?_⟩
    intro workers taken pool some_ runs
    have accounted := Pool.accounted_of_runs whole (tolerated plan reaches) runs
    refine ⟨accounted.ended_of_stuck some_, fun ended => ?_⟩
    have alike := accounted.result_alike some_ ended
    exact ⟨accounted.taken_eq some_ ended, accounted.not_aborted (tolerated plan reaches),
      accounted.broken_eq_none, alike, Graph.ofScan_alike reader path alike (texts_apart tree)⟩
  · intro start begun some_
    exact build_concurrent reader o tree begun readable tolerated some_

/-- In a directory with two files, one of which fails, any number of workers takes both files in
order, and two workers build the same graph as none. -/
theorem interleavings_agree_on_pair :
    pair.files.WellFormed ∧ pair.Reaches ⟨1, ["src"]⟩ pairOptions pairPlan ∧ pairPlan.Readable ∧
    pair.Tolerates .standard pairOptions pairPlan ∧
    (∀ workers taken pool, 0 < workers →
      Pool.Runs pairOptions.policy (pair.lookOf .standard pairOptions)
        (Pool.start (pair.walkOf pairOptions pairPlan) workers) taken pool →
      pool.Ended → taken = [⟨1, ["src", "a.py"]⟩, ⟨1, ["src", "b.py"]⟩]) ∧
    (pair.build .standard pair.files.tripleReader ⟨1, ["src"]⟩
        { scan := pairOptions.withConcurrent true }).result =
      (pair.build .standard pair.files.tripleReader ⟨1, ["src"]⟩
        { scan := pairOptions.withConcurrent false }).result := by
  have only : ∀ plan, pair.Reaches ⟨1, ["src"]⟩ pairOptions plan → plan = pairPlan :=
    fun plan reaches => pair_reaches.unique reaches
  have agree := interleavings_agree pair .standard pair.files.tripleReader ⟨1, ["src"]⟩
    { scan := pairOptions } pair_wellFormed
    (fun plan reaches => only plan reaches ▸ pair_readable)
    (fun plan reaches => only plan reaches ▸ pair_tolerates)
  refine ⟨pair_wellFormed, pair_reaches, pair_readable, pair_tolerates, ?_, ?_⟩
  · intro workers taken pool some_ runs ended
    obtain ⟨sequential, -, any⟩ := agree.1 pairPlan pair_reaches
    have taken_eq := ((any workers taken pool some_ runs).2 ended).1
    rw [taken_eq, Walk.candidates, pair_visits]
    rfl
  · exact agree.2 ⟨1, ["src"]⟩ pair_reaches.root (by decide)

end Site

end DocGraph
