import DocGraph.Proofs.Build.Flagged
import DocGraph.Proofs.Scan.GivingUp

/-!
# What a scan that returns has found

A scan that returns was not given up, so it has taken in the events of its whole walk, in their
order or, with workers, in some order. No globs have to compile for this: a glob that cannot be read
ends the walk, and then the scan does not return, but what it has found is what the visits before
that have given it. `Pool.mend` takes that error away, which no turn looks at.
-/

set_option autoImplicit false

namespace DocGraph

/-- A walker without the error that breaks off its walk. -/
def Walker.mend : Walker → Walker
  | .walking rest => .walking { rest with broken := none }
  | .doing visit rest => .doing visit { rest with broken := none }
  | .closing left _ => .closing left none

namespace Pool

variable {policy : AbortPolicy} {look : Path → List ScanEvent} {walk : Walk} {workers : Nat}
  {taken : List Path} {pool after : Pool}

/-- A scan with workers without the error that breaks off its walk. -/
def mend (pool : Pool) : Pool :=
  { pool with walker := pool.walker.mend }

/-- Putting a task into the queue does not look at what breaks off the walk. -/
theorem put_mend (task : Task) : pool.mend.put? task = (pool.put? task).map mend := by
  have same : pool.mend.queue = pool.queue := rfl
  unfold put?
  rw [same]
  split
  · rfl
  · rfl

/-- Neither does a turn of the walker. -/
theorem walkerTurn_mend : pool.mend.walkerTurn policy = (pool.walkerTurn policy).map mend := by
  obtain ⟨walker, queue, crew, state⟩ := pool
  cases walker with
  | walking rest =>
    unfold walkerTurn mend
    dsimp only [Walker.mend]
    split
    · rfl
    · split <;> rfl
  | doing visit rest =>
    cases visit with
    | listed directory => rfl
    | failed path failure => rfl
    | candidate path =>
      change (mend _ |>.put? (.look path)).map _ = _
      rw [put_mend, Option.map_map]
      change _ = ((put? _ _).map _).map mend
      rw [Option.map_map]
      rfl
  | closing left broken =>
    cases left with
    | zero => rfl
    | succ left =>
      change (mend _ |>.put? .leave).map _ = _
      rw [put_mend, Option.map_map]
      change _ = ((put? _ _).map _).map mend
      rw [Option.map_map]
      rfl

/-- Neither does a turn of a worker. -/
theorem workerTurn_mend (index : Nat) :
    pool.mend.workerTurn policy look index = (pool.workerTurn policy look index).map mend := by
  obtain ⟨walker, queue, crew, state⟩ := pool
  unfold workerTurn mend
  dsimp only
  split
  · split <;> rfl
  · rfl
  · rfl
  · rfl
  · rfl

/-- Without the error everybody does the same. -/
theorem turn_mend (turn : Turn) :
    pool.mend.turn policy look turn = (pool.turn policy look turn).map mend := by
  cases turn with
  | walker => exact walkerTurn_mend
  | worker index => exact workerTurn_mend index

/-- The same turns can be taken without the error. -/
theorem runs_mend {first last : Pool} (runs : Runs policy look first taken last) :
    Runs policy look first.mend taken last.mend := by
  induction runs with
  | start => exact .start first.mend
  | @step middle last taken turn before goes ih =>
    have same : middle.mend.takes? turn = middle.takes? turn := by
      cases turn <;> rfl
    rw [← same]
    exact ih.step turn (by rw [turn_mend, goes]; rfl)

/-- If a scan has ended without the error, it has ended. -/
theorem ended_of_mend (ended : pool.mend.Ended) : pool.Ended := by
  obtain ⟨⟨broken, closed⟩, gone⟩ := ended
  refine ⟨?_, gone⟩
  change pool.walker.mend = _ at closed
  cases at_ : pool.walker with
  | walking rest =>
    rw [at_] at closed
    cases closed
  | doing visit rest =>
    rw [at_] at closed
    cases closed
  | closing left broken' =>
    rw [at_] at closed
    cases closed
    exact ⟨broken', rfl⟩

/-- If a scan has ended, it has ended without the error. -/
theorem mend_of_ended (ended : pool.Ended) : pool.mend.Ended := by
  obtain ⟨⟨broken, closed⟩, gone⟩ := ended
  refine ⟨⟨none, ?_⟩, gone⟩
  change pool.walker.mend = _
  rw [closed]
  rfl

/-- Whatever becomes of the walk, the run in which workers go first comes to its end. -/
theorem ended_run (walk : Walk) (some_ : 0 < workers) :
    ((start walk workers).run policy look).Ended := by
  obtain ⟨taken, runs⟩ := @runs_run policy look (start walk workers)
  have stuck := stuck_of_next (@next_run policy look (start walk workers))
  have mended : Runs policy look (start ⟨walk.visits, none⟩ workers) taken
      ((start walk workers).run policy look).mend := runs_mend runs
  refine ended_of_mend (ended_of_stuck rfl some_ mended fun turn => ?_)
  rw [turn_mend, stuck turn]
  rfl

/-- Once the walker and all workers have ended, the candidates up to some visit have been taken, and
what was found are the events up to there, apart from the order. The scan came to all visits unless
it was given up. -/
theorem kept_of_runs (some_ : 0 < workers) (runs : Runs policy look (start walk workers) taken pool)
    (ended : pool.Ended) :
    ∃ kept dropped, walk.visits = kept ++ dropped ∧ taken = kept.filterMap Visit.candidate? ∧
      pool.state.result.Alike (.ofEvents (kept.flatMap (Visit.events look))) ∧
      (dropped ≠ [] → pool.state.abort ≠ none) := by
  have mended : Runs policy look (start ⟨walk.visits, none⟩ workers) taken pool.mend :=
    runs_mend runs
  obtain ⟨kept, dropped, split, reason, accounted, -⟩ := cut_of_runs rfl mended
  have over_ := mend_of_ended ended
  exact ⟨kept, dropped, split, accounted.taken_eq some_ over_,
    accounted.result_alike some_ over_, reason⟩

end Pool

namespace Walk

variable {policy : AbortPolicy} {look : Path → List ScanEvent} {walk : Walk} {result : ScanResult}

/-- A scan with workers that returns has found what the events of the walk add up to, apart from the
order. -/
theorem found_of_scanWithWorkers {workers : Nat} (some_ : 0 < workers)
    (h : walk.scanWithWorkers policy look workers = .ok result) :
    result.Alike (.ofEvents (walk.events look)) := by
  have busy : 0 < min workers (walk.visits.length + 1) := lt_min some_ (Nat.succ_pos _)
  obtain ⟨taken, runs⟩ := @Pool.runs_run policy look
    (Pool.start walk (min workers (walk.visits.length + 1)))
  obtain ⟨kept, dropped, split, -, alike, reason⟩ :=
    Pool.kept_of_runs busy runs (Pool.ended_run walk busy)
  obtain ⟨goOn, rfl⟩ := found_of_run h
  have all : dropped = [] := by
    by_contra more
    exact reason more goOn
  rw [all, List.append_nil] at split
  have whole : walk.events look = kept.flatMap (Visit.events look) := by rw [Walk.events, split]
  rw [whole]
  exact alike

end Walk

namespace Site

variable {site : Site} {registry : Registry} {path : Path} {o : ScanOptions} {scan : ScanResult}
  {plan : WalkPlan}

/-- Without anybody to look at files there is no scan with workers. -/
theorem scan_of_noWorkers (h : site.Reaches path o plan) (several : o.concurrent = true)
    (nobody : o.workerCount site.processors ≤ 0) :
    site.scan registry path o = .error .noWorkers := by
  unfold Site.scan
  rw [h.root]
  simp only [bind, Except.bind, h.there, h.planned, several, nobody, decide_true, Bool.and_self,
    if_true]
  rfl

/-- A scan that returns went along a walk and found what the events of it add up to, apart from the
order. -/
theorem found_of_scan (h : site.scan registry path o = .ok scan) :
    ∃ plan, site.Reaches path o plan ∧
      scan.Alike (.ofEvents ((site.walkOf o plan).events (site.lookOf registry o))) := by
  by_cases reached : ∃ plan, site.Reaches path o plan
  · obtain ⟨plan, reaches⟩ := reached
    refine ⟨plan, reaches, ?_⟩
    cases mode : o.concurrent with
    | false =>
      rw [reaches.scan_eq registry (Or.inl mode), scanPlanned, mode] at h
      rw [Walk.found_of_scan h]
      exact ScanResult.ofEvents_alike (List.Perm.refl _)
    | true =>
      by_cases able : 0 < o.workerCount site.processors
      · rw [reaches.scan_eq registry (Or.inr able), scanPlanned, mode] at h
        exact Walk.found_of_scanWithWorkers (by omega) h
      · rw [scan_of_noWorkers reaches mode (by omega)] at h
        cases h
  · obtain ⟨e, failed⟩ := scan_unreached registry fun plan reaches => reached ⟨plan, reaches⟩
    cases (failed o.concurrent).symm.trans h

end Site

end DocGraph
