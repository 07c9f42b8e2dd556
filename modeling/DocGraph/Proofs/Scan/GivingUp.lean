import DocGraph.Proofs.Scan.Ending
import DocGraph.Proofs.Scan.Interleaving
import Mathlib

/-!
# Interleavings of a scan that may be given up

A failure can end a scan with workers at any time: the walker sees it and leaves the rest of the
walk, while the workers go on with what is on the queue. `Pool.Cut` says what holds between any two
turns, for every policy: up to where the walker leaves it, the walk is accounted for as if it ended
there, and there is no rest unless the scan was given up. So the failures that a scan with workers
counts are those of a walk that ends where it was given up, if it was.
-/

set_option autoImplicit false

namespace DocGraph

namespace Pool

variable {policy : AbortPolicy} {look : Path → List ScanEvent} {walk : Walk} {workers : Nat}
  {taken : List Path} {pool after : Pool}

/-! ## Where the walk is left -/

/-- What holds between two turns of a scan along a walk. The walk has a part that is accounted for,
which ends with what is ahead of the walker, and a rest, which is there only if the scan has been
given up. -/
structure Cut (policy : AbortPolicy) (look : Path → List ScanEvent) (walk : Walk) (workers : Nat)
    (taken : List Path) (pool : Pool) (kept dropped : List Visit) : Prop where
  split : walk.visits = kept ++ dropped
  reason : dropped ≠ [] → pool.state.abort ≠ none
  accounted : Accounted policy look ⟨kept, none⟩ workers taken pool
  ahead : pool.walker.ahead <:+ kept

/-- At the start all of the walk is accounted for. -/
theorem cut_start (whole : walk.broken = none) (workers : Nat) :
    Cut policy look walk workers [] (start walk workers) walk.visits [] := by
  obtain ⟨visits, broken⟩ := walk
  obtain rfl : broken = none := whole
  refine ⟨(List.append_nil _).symm, fun impossible => absurd rfl impossible, ?_, List.suffix_refl _⟩
  exact accounted_start rfl workers

/-- Whatever is written down, the first reason to give up is kept. -/
theorem abort_of_recordAll {s : ScanState} {reason : Abort} (given : s.abort = some reason)
    (events : List ScanEvent) : (s.recordAll policy events).abort = some reason := by
  induction events generalizing s with
  | nil => exact given
  | cons event rest ih => exact ih (s.record_abort_of_some policy event given)

/-- A scan that was given up stays so, for the same reason. -/
theorem abort_of_turn {turn : Turn} {reason : Abort} (given : pool.state.abort = some reason)
    (goes : pool.turn policy look turn = some after) : after.state.abort = some reason := by
  rw [state_of_turn goes]
  exact abort_of_recordAll given _

/-- A scan that has been given up stays so. -/
theorem aborted_of_turn {turn : Turn} (given : pool.state.abort ≠ none)
    (goes : pool.turn policy look turn = some after) : after.state.abort ≠ none := by
  obtain ⟨reason, given⟩ := Option.ne_none_iff_exists'.mp given
  rw [abort_of_turn given goes]
  exact Option.some_ne_none reason

/-- What is ahead of the walker after its turn was ahead of it before. -/
theorem ahead_of_walkerTurn (goes : pool.walkerTurn policy = some after) :
    after.walker.ahead <:+ pool.walker.ahead := by
  cases walkerTurn_eq_some_iff.mp goes with
  | giveUp | close => exact List.nil_suffix
  | @visit walk visit rest walking _ more =>
    rw [walking]
    change visit :: rest <:+ walk.visits
    rw [more]
  | list doing | fail doing | offer doing =>
    rw [doing]
    exact List.suffix_cons _ _
  | tell closing =>
    rw [closing]
    exact List.suffix_refl _

/-- A walker that gives up leaves what is ahead of it, and what it has passed is accounted for. -/
theorem Accounted.gaveUp {passed : List Visit} {rest : Walk}
    (h : Accounted policy look ⟨passed ++ rest.visits, none⟩ workers taken pool)
    (walking : pool.walker = .walking rest) :
    Accounted policy look ⟨passed, none⟩ workers taken
      (pool.proceed (.closing pool.workers.length none)) := by
  obtain ⟨size, -, order, ⟨events, state, complete⟩, fifo, marked, emptied⟩ := h
  rw [walking] at order marked
  rw [pending, walking] at complete
  -- Both accounts end with what was ahead of the walker, so that can be taken off on either side.
  have candidates : taken ++ pool.queued = Walk.candidates ⟨passed, none⟩ := by
    have whole : Walk.candidates ⟨passed ++ rest.visits, none⟩ =
        Walk.candidates ⟨passed, none⟩ ++ rest.visits.filterMap Visit.candidate? :=
      List.filterMap_append
    rw [whole, ← List.append_assoc] at order
    exact List.append_cancel_right order
  have written : (events ++ (pool.workers.flatMap Worker.events ++ pool.queued.flatMap look)).Perm
      (Walk.events look ⟨passed, none⟩) := by
    have whole : Walk.events look ⟨passed ++ rest.visits, none⟩ =
        Walk.events look ⟨passed, none⟩ ++ rest.visits.flatMap (Visit.events look) :=
      List.flatMap_append
    rw [whole, ← List.append_assoc, ← List.append_assoc] at complete
    rw [← List.append_assoc]
    exact (List.perm_append_right_iff _).mp complete
  refine ⟨size, rfl, ?_, ⟨events, state, ?_⟩, fifo, ?_, emptied⟩
  · change taken ++ (pool.queued ++ []) = _
    rw [List.append_nil]
    exact candidates
  · change (events ++ (pool.workers.flatMap Worker.events ++
      (pool.queued.flatMap look ++ []))).Perm _
    rw [List.append_nil]
    exact written
  · change pool.marks + pool.departed + pool.workers.length = workers
    rw [size]
    exact marked

/-- A turn of the walker keeps the account, up to where it leaves the walk. -/
theorem Cut.walkerTurn {kept dropped : List Visit}
    (h : Cut policy look walk workers taken pool kept dropped)
    (goes : pool.walkerTurn policy = some after) :
    ∃ kept dropped, Cut policy look walk workers taken after kept dropped := by
  have turn : pool.turn policy look .walker = some after := goes
  by_cases givesUp : pool.state.abort ≠ none ∧ ∃ rest, pool.walker = .walking rest
  · obtain ⟨given, rest, walking⟩ := givesUp
    obtain ⟨split, reason, accounted, passed, same⟩ := h
    rw [walking] at same
    change passed ++ rest.visits = kept at same
    subst same
    have closed : after = pool.proceed (.closing pool.workers.length none) := by
      rw [walkerTurn_eq_some_iff.mpr (.giveUp walking given)] at goes
      exact (Option.some.inj goes).symm
    subst closed
    refine ⟨passed, rest.visits ++ dropped, ?_, fun _ => given, accounted.gaveUp walking,
      List.nil_suffix⟩
    rw [split, List.append_assoc]
  · have goesOn : pool.state.abort = none ∨ ∀ rest, pool.walker ≠ .walking rest := by
      by_cases given : pool.state.abort = none
      · exact Or.inl given
      · exact Or.inr fun rest walking => givesUp ⟨given, rest, walking⟩
    exact ⟨kept, dropped, h.split, fun some_ => aborted_of_turn (h.reason some_) turn,
      h.accounted.walkerTurn goesOn goes, (ahead_of_walkerTurn goes).trans h.ahead⟩

/-- So does a turn of a worker. -/
theorem Cut.workerTurn {kept dropped : List Visit} {index : Nat}
    (h : Cut policy look walk workers taken pool kept dropped)
    (goes : pool.workerTurn policy look index = some after) :
    Cut policy look walk workers (taken ++ (pool.takes? (.worker index)).toList) after
      kept dropped := by
  have turn : pool.turn policy look (.worker index) = some after := goes
  refine ⟨h.split, fun some_ => aborted_of_turn (h.reason some_) turn, h.accounted.workerTurn goes, ?_⟩
  rw [(others_of_workerTurn goes).1]
  exact h.ahead

/-- However the turns of a scan follow each other, the walk is accounted for up to where it is
left. -/
theorem cut_of_runs (whole : walk.broken = none)
    (runs : Runs policy look (start walk workers) taken pool) :
    ∃ kept dropped, Cut policy look walk workers taken pool kept dropped := by
  generalize first : start walk workers = origin at runs
  -- Where the walk is cut is found anew after each turn: the walker moves the cut when it gives up.
  induction runs with
  | start => exact ⟨walk.visits, [], first ▸ cut_start whole workers⟩
  | step turn before goes ih =>
    obtain ⟨kept, dropped, h⟩ := ih
    cases turn with
    | walker =>
      rw [takes?, Option.toList_none, List.append_nil]
      exact h.walkerTurn goes
    | worker index => exact ⟨kept, dropped, h.workerTurn goes⟩

/-- While somebody has not ended, somebody can go on. -/
theorem ended_of_stuck (whole : walk.broken = none) (some_ : 0 < workers)
    (runs : Runs policy look (start walk workers) taken pool)
    (stuck : ∀ turn, pool.turn policy look turn = none) : pool.Ended := by
  obtain ⟨kept, dropped, h⟩ := cut_of_runs whole runs
  exact h.accounted.ended_of_stuck some_ stuck

/-- Once the walker and all workers have ended, the scan ends as the number of failures of the walk
says. -/
theorem ending_of_runs (whole : walk.broken = none) (some_ : 0 < workers)
    (runs : Runs policy look (start walk workers) taken pool) (ended : pool.Ended) :
    pool.broken = none ∧ ∃ events, pool.state = ({} : ScanState).recordAll policy events ∧
      policy.ending (events.countP ScanEvent.isFailure) = policy.ending (walk.failures look) := by
  obtain ⟨kept, dropped, split, reason, accounted, -⟩ := cut_of_runs whole runs
  obtain ⟨-, nothing, -⟩ := accounted.nothing_left some_ ended
  obtain ⟨events, state, complete⟩ := accounted.written
  rw [nothing, List.append_nil] at complete
  rw [state] at reason
  refine ⟨accounted.broken_eq_none, events, state, ?_⟩
  rw [Walk.failures, Walk.events, split]
  exact (AbortPolicy.ending_of_visits complete reason).symm

end Pool

end DocGraph
