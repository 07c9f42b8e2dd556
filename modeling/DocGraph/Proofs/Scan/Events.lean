import DocGraph.Proofs.Scan.Visits
import DocGraph.Scan
import Mathlib.Data.List.Induction
import Mathlib.Data.List.Perm.Basic

/-!
# What events add up to

A scan writes down events one at a time. Its result is a function of the events alone: the files
that were kept and the failures, each in the order of their events, and two counts.
`ScanResult.ofEvents` is that function. Events in another order add up to the same files and
errors in another order, and to the same counts, which `ScanResult.Alike` says of two results.

A policy that tolerates as many failures as there are never gives the scan up, so a scan along a
walk then comes to all the events of the walk.
-/

set_option autoImplicit false

namespace DocGraph

namespace ScanEvent

/-- The record that an event keeps, if it does. -/
def kept? : ScanEvent → Option FileRecord
  | .kept record => some record
  | _ => none

/-- The entry on the list of errors that an event makes, if it does. -/
def error? : ScanEvent → Option CollectedError
  | .failed path failure _ =>
    some { file := path.toString, message := failure.message, cause := some failure.cause }
  | _ => none

/-- Whether an event counts as a file that was looked at. -/
def counts : ScanEvent → Bool
  | .scanned => true
  | .kept _ => false
  | .failed _ _ counts => counts

/-- Whether an event is a failure. -/
def isFailure : ScanEvent → Bool
  | .failed _ _ _ => true
  | _ => false

end ScanEvent

namespace ScanResult

/-- What events add up to. -/
def ofEvents (events : List ScanEvent) : ScanResult :=
  { files := events.filterMap ScanEvent.kept?
    errors := events.filterMap ScanEvent.error?
    scanned := events.countP ScanEvent.counts
    failed := events.countP ScanEvent.isFailure }

/-- Two results that differ at most in the order of their files and of their errors. -/
structure Alike (first second : ScanResult) : Prop where
  files : first.files.Perm second.files
  errors : first.errors.Perm second.errors
  scanned : first.scanned = second.scanned
  failed : first.failed = second.failed

/-- Events in another order add up to what differs only in order. -/
theorem ofEvents_alike {first second : List ScanEvent} (h : first.Perm second) :
    (ofEvents first).Alike (ofEvents second) :=
  ⟨h.filterMap _, h.filterMap _, h.countP_eq _, h.countP_eq _⟩

end ScanResult

namespace AbortPolicy

/-- Whether a policy goes on after so many failures. -/
def Tolerates (policy : AbortPolicy) (failures : Nat) : Prop :=
  policy.strict = false ∧ (policy.maxErrors = 0 ∨ (failures : Int) < policy.maxErrors)

/-- A policy that tolerates failures tolerates fewer. -/
theorem Tolerates.mono {policy : AbortPolicy} {few many : Nat} (h : policy.Tolerates many)
    (le : few ≤ many) : policy.Tolerates few := by
  refine ⟨h.1, h.2.imp_right fun below => ?_⟩
  omega

/-- A policy does not give up at a failure that it tolerates. -/
theorem Tolerates.decide_none {policy : AbortPolicy} {count : Nat} (h : policy.Tolerates count)
    (path : Path) (failure : Failure) : policy.decide? count path failure = none := by
  unfold decide?
  rw [h.1]
  rcases h.2 with unlimited | below
  · simp [unlimited]
  · have notReached : ¬policy.maxErrors ≤ count := by omega
    simp [notReached]

/-- A policy without limits tolerates any number of failures. -/
theorem tolerates_default (failures : Nat) : ({} : AbortPolicy).Tolerates failures :=
  ⟨rfl, Or.inl rfl⟩

end AbortPolicy

namespace ScanState

variable (policy : AbortPolicy)

/-- One event more is taken in last. -/
theorem recordAll_snoc (s : ScanState) (events : List ScanEvent) (event : ScanEvent) :
    s.recordAll policy (events ++ [event]) = (s.recordAll policy events).record policy event := by
  rw [recordAll, List.foldl_append]
  rfl

/-- Events can be taken in in two parts. -/
theorem recordAll_append (s : ScanState) (first second : List ScanEvent) :
    s.recordAll policy (first ++ second) = (s.recordAll policy first).recordAll policy second := by
  rw [recordAll, List.foldl_append]
  rfl

/-- Whatever the policy, the result is what the events add up to. -/
theorem recordAll_result (events : List ScanEvent) :
    (({} : ScanState).recordAll policy events).result = .ofEvents events := by
  induction events using List.reverseRecOn with
  | nil => rfl
  | append_singleton events event ih =>
    rw [recordAll_snoc]
    cases event with
    | scanned =>
      simp [record, ih, ScanResult.ofEvents, ScanEvent.kept?, ScanEvent.error?, ScanEvent.counts,
        ScanEvent.isFailure]
    | kept file =>
      simp [record, ih, ScanResult.ofEvents, ScanEvent.kept?, ScanEvent.error?, ScanEvent.counts,
        ScanEvent.isFailure]
    | failed path failure counts =>
      simp [record, ih, ScanResult.ofEvents, ScanEvent.kept?, ScanEvent.error?, ScanEvent.counts,
        ScanEvent.isFailure]
      cases counts <;> rfl

/-- A scan whose failures are tolerated is not given up. -/
theorem recordAll_abort {events : List ScanEvent}
    (h : policy.Tolerates (events.countP ScanEvent.isFailure)) :
    (({} : ScanState).recordAll policy events).abort = none := by
  induction events using List.reverseRecOn with
  | nil => rfl
  | append_singleton events event ih =>
    have before := ih (h.mono (by simp))
    rw [recordAll_snoc]
    cases event with
    | scanned => exact before
    | kept file => exact before
    | failed path failure counts =>
      have failed := congrArg ScanResult.failed (recordAll_result policy events)
      have here : policy.Tolerates ((({} : ScanState).recordAll policy events).result.failed + 1) := by
        rw [failed]
        simpa [ScanResult.ofEvents, ScanEvent.isFailure] using h
      rw [record, before, here.decide_none]
      rfl

end ScanState

/-! ## Along a walk -/

/-- The events of a visit, given those of looking at a candidate. -/
def Visit.events (look : Path → List ScanEvent) : Visit → List ScanEvent
  | .listed _ => []
  | .candidate path => look path
  | .failed path failure => [.failed path failure true]

/-- The events of a walk that is never given up. -/
def Walk.events (look : Path → List ScanEvent) (walk : Walk) : List ScanEvent :=
  walk.visits.flatMap (Visit.events look)

/-- How many failures a scan along a walk comes to if it is never given up. -/
def Walk.failures (look : Path → List ScanEvent) (walk : Walk) : Nat :=
  (walk.events look).countP ScanEvent.isFailure

namespace ScanState

/-- What a scan does at a visit is to take in its events. -/
theorem perform_eq (policy : AbortPolicy) (look : Path → List ScanEvent) (s : ScanState)
    (visit : Visit) : s.perform policy look visit = s.recordAll policy (visit.events look) := by
  cases visit <;> rfl

/-- A scan whose failures are tolerated takes in the events of all visits. -/
theorem performAll_eq {policy : AbortPolicy} (look : Path → List ScanEvent)
    (done : List ScanEvent) (visits : List Visit)
    (h : policy.Tolerates
      ((done ++ visits.flatMap (Visit.events look)).countP ScanEvent.isFailure)) :
    (({} : ScanState).recordAll policy done).performAll policy look visits =
      ({} : ScanState).recordAll policy (done ++ visits.flatMap (Visit.events look)) := by
  induction visits generalizing done with
  | nil => rw [performAll, List.flatMap_nil, List.append_nil]
  | cons visit rest ih =>
    have goOn : (({} : ScanState).recordAll policy done).abort = none :=
      recordAll_abort policy (h.mono (by rw [List.countP_append]; omega))
    rw [List.flatMap_cons, ← List.append_assoc] at h
    rw [performAll, goOn, perform_eq, ← recordAll_append, List.flatMap_cons, ← List.append_assoc]
    exact ih _ h

end ScanState

/-- A scan whose failures are tolerated, along a walk that is not broken off, returns what the
events of the walk add up to. -/
theorem Walk.scan_eq {policy : AbortPolicy} {look : Path → List ScanEvent} {walk : Walk}
    (whole : walk.broken = none) (h : policy.Tolerates (walk.failures look)) :
    walk.scan policy look = .ok (.ofEvents (walk.events look)) := by
  have all : ({} : ScanState).performAll policy look walk.visits =
      ({} : ScanState).recordAll policy (walk.events look) :=
    ScanState.performAll_eq look [] walk.visits h
  have goOn := ScanState.recordAll_abort policy h
  unfold Walk.scan
  rw [all, whole]
  simp only [goOn, ScanState.outcome, ScanState.recordAll_result]

/-- A scan that is not given up has taken in the events of all visits. -/
theorem ScanState.performAll_of_abort_none {policy : AbortPolicy} {look : Path → List ScanEvent}
    (s : ScanState) (visits : List Visit)
    (h : (s.performAll policy look visits).abort = none) :
    s.performAll policy look visits = s.recordAll policy (visits.flatMap (Visit.events look)) := by
  induction visits generalizing s with
  | nil => rfl
  | cons visit rest ih =>
    rw [performAll] at h ⊢
    by_cases given : s.abort.isSome = true
    · rw [if_pos given] at h
      rw [h] at given
      cases given
    · rw [if_neg given] at h ⊢
      rw [ih _ h, perform_eq, ← recordAll_append, List.flatMap_cons]

/-- A state that was not given up has the result that comes out of it. -/
theorem ScanState.outcome_eq_ok {s : ScanState} {result : ScanResult}
    (h : s.outcome = .ok result) : s.abort = none ∧ s.result = result := by
  unfold outcome at h
  cases given : s.abort with
  | none =>
    rw [given] at h
    exact ⟨rfl, Except.ok.inj h⟩
  | some reason =>
    rw [given] at h
    cases h

/-- A scan along a walk that returns has found what the events of the walk add up to. -/
theorem Walk.found_of_scan {policy : AbortPolicy} {look : Path → List ScanEvent} {walk : Walk}
    {result : ScanResult} (h : walk.scan policy look = .ok result) :
    result = .ofEvents (walk.events look) := by
  unfold scan at h
  dsimp only at h
  have returned : (({} : ScanState).performAll policy look walk.visits).outcome = .ok result := by
    split at h
    · cases h
    · exact h
  obtain ⟨goOn, rfl⟩ := ScanState.outcome_eq_ok returned
  rw [ScanState.performAll_of_abort_none _ _ goOn, ScanState.recordAll_result]
  rfl

/-- A scan with workers that returns was not given up in the run in which workers go first, and has
found what they found. -/
theorem Walk.found_of_run {policy : AbortPolicy} {look : Path → List ScanEvent} {walk : Walk}
    {workers : Nat} {result : ScanResult}
    (h : walk.scanWithWorkers policy look workers = .ok result) :
    let pool := (Pool.start walk (min workers (walk.visits.length + 1))).run policy look
    pool.state.abort = none ∧ pool.state.result = result := by
  unfold scanWithWorkers at h
  dsimp only at h
  split at h
  · cases h
  · exact ScanState.outcome_eq_ok h

/-- A scan along a walk that is not broken off is given up, or returns what the events of the walk
add up to. -/
theorem Walk.scan_aborted_or_eq {policy : AbortPolicy} {look : Path → List ScanEvent} {walk : Walk}
    (whole : walk.broken = none) :
    (∃ reason partialResult, walk.scan policy look = .error (.aborted reason partialResult)) ∨
      walk.scan policy look = .ok (.ofEvents (walk.events look)) := by
  unfold Walk.scan
  rw [whole]
  cases given : (({} : ScanState).performAll policy look walk.visits).abort with
  | some reason =>
    refine Or.inl ⟨reason, (({} : ScanState).performAll policy look walk.visits).result, ?_⟩
    simp only [ScanState.outcome, given]
  | none =>
    have all := ScanState.performAll_of_abort_none {} walk.visits given
    refine Or.inr ?_
    simp only [ScanState.outcome, given]
    rw [all, ScanState.recordAll_result]
    rfl

/-- A record is among the files of a walk exactly if it is kept of a candidate. -/
theorem Walk.mem_files_iff {look : Path → List ScanEvent} {walk : Walk} {record : FileRecord} :
    record ∈ (ScanResult.ofEvents (walk.events look)).files ↔
      ∃ path, .candidate path ∈ walk.visits ∧ .kept record ∈ look path := by
  constructor
  · intro member
    obtain ⟨event, occurs, keeps⟩ := List.mem_filterMap.mp member
    obtain ⟨visit, visited, event_of⟩ := List.mem_flatMap.mp occurs
    cases event with
    | scanned => cases keeps
    | failed => cases keeps
    | kept kept =>
      cases keeps
      cases visit with
      | listed directory => cases event_of
      | failed path failure => cases List.mem_singleton.mp event_of
      | candidate path => exact ⟨path, visited, event_of⟩
  · rintro ⟨path, visited, event_of⟩
    exact List.mem_filterMap.mpr
      ⟨.kept record, List.mem_flatMap.mpr ⟨.candidate path, visited, event_of⟩, rfl⟩

/-- If looking at a path keeps no more than one record, which is of that path, then the files of a
walk are in the order of its candidates. -/
theorem Walk.files_sublist {look : Path → List ScanEvent} (walk : Walk)
    (own : ∀ path, (((look path).filterMap ScanEvent.kept?).map FileRecord.path).Sublist [path]) :
    ((ScanResult.ofEvents (walk.events look)).files.map FileRecord.path).Sublist
      walk.candidates := by
  unfold Walk.events Walk.candidates ScanResult.ofEvents
  dsimp only
  induction walk.visits with
  | nil => exact List.Sublist.slnil
  | cons visit rest ih =>
    rw [List.flatMap_cons, List.filterMap_append, List.map_append]
    cases visit with
    | listed directory => exact ih
    | failed path failure => exact ih
    | candidate path => exact (own path).append ih

end DocGraph
