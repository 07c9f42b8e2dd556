import DocGraph.Proofs.Scan.Concurrency
import DocGraph.Proofs.Scan.GivingUp

/-!
# Every schedule gives a scan up or none does

`scan_ends` says that a scan ends in one way, which the policy and the number of failures of a scan
without limits decide: whether it has workers, how many, and in which order they and the walker go
on has no say in it.

In `Pool` a failure is put on the list of errors and counted in one turn. In a scan these are two
steps, and anybody can go on between them. `LoggedPool` takes the steps apart: its list of errors
runs ahead of the count, so that what is counted is always on the list, and at the end they agree.
-/

set_option autoImplicit false

namespace DocGraph

/-- A scan with workers in which a failure is put on the list of errors before it is counted. -/
structure LoggedPool where
  /-- The scan. The errors in its state are those that have been counted. -/
  pool : Pool
  log : ErrorLog := []
  /-- Those who have put a failure on the list and have not counted it yet. -/
  ahead : List Turn := []

namespace Pool

variable {policy : AbortPolicy} {look : Path → List ScanEvent} {pool after : Pool}

/-- The entry on the list of errors that somebody is about to make, if any. -/
def error? (pool : Pool) (turn : Turn) : Option CollectedError :=
  (pool.about? turn).bind ScanEvent.error?

/-- Recording events puts their failures on the list of errors. -/
theorem errors_of_recordAll (s : ScanState) (events : List ScanEvent) :
    (s.recordAll policy events).result.errors =
      s.result.errors ++ events.filterMap ScanEvent.error? := by
  induction events generalizing s with
  | nil => exact (List.append_nil _).symm
  | cons event rest ih =>
    change ((s.record policy event).recordAll policy rest).result.errors = _
    rw [ih]
    cases event with
    | scanned => rfl
    | kept file => rfl
    | failed path failure counts => exact List.append_assoc _ _ _

/-- A turn puts the entry on the list that was about to be made. -/
theorem errors_of_turn {turn : Turn} (goes : pool.turn policy look turn = some after) :
    after.state.result.errors = pool.state.result.errors ++ (pool.error? turn).toList := by
  rw [state_of_turn goes, errors_of_recordAll, error?]
  cases pool.about? turn with
  | none => rfl
  | some event =>
    cases made : event.error? <;> simp [made]

/-- Once the walker and all workers have ended, nobody is about to make an entry. -/
theorem Ended.entry_none (ended : pool.Ended) (turn : Turn) : pool.error? turn = none := by
  obtain ⟨⟨broken, closed⟩, gone⟩ := ended
  cases turn with
  | walker =>
    rw [error?, about?, closed]
    rfl
  | worker index =>
    rw [error?, about?]
    cases found : pool.workers[index]? with
    | none => rfl
    | some w =>
      rw [gone w (List.mem_of_getElem? found)]
      rfl

/-- Only somebody who is there is about to make an entry. -/
theorem mem_turns_of_entry {turn : Turn} {entry : CollectedError}
    (about : pool.error? turn = some entry) : turn ∈ pool.turns := by
  cases turn with
  | walker => simp [turns]
  | worker index =>
    have there : index < pool.workers.length := by
      by_contra outside
      have nobody : pool.workers[index]? = none := List.getElem?_eq_none (by omega)
      rw [error?, about?, nobody] at about
      cases about
    simp [turns, there]

end Pool

namespace LoggedPool

variable {policy : AbortPolicy} {look : Path → List ScanEvent} {walk : Walk} {workers : Nat}

/-- The start of a scan along a walk. -/
def start (walk : Walk) (workers : Nat) : LoggedPool :=
  { pool := Pool.start walk workers }

/-- A step of a scan: somebody puts a failure on the list, or goes on, and with a failure only once
it is on the list. -/
inductive Step (policy : AbortPolicy) (look : Path → List ScanEvent) : LoggedPool → LoggedPool → Prop
  | log (s : LoggedPool) (turn : Turn) (entry : CollectedError)
      (about : s.pool.error? turn = some entry) (new : turn ∉ s.ahead) :
      Step policy look s { s with log := s.log ++ [entry], ahead := turn :: s.ahead }
  | go (s : LoggedPool) (turn : Turn) (after : Pool)
      (goes : s.pool.turn policy look turn = some after)
      (ready : s.pool.error? turn = none ∨ turn ∈ s.ahead) :
      Step policy look s ⟨after, s.log, s.ahead.erase turn⟩

/-- Any number of steps. -/
abbrev Reaches (policy : AbortPolicy) (look : Path → List ScanEvent) :
    LoggedPool → LoggedPool → Prop :=
  Relation.ReflTransGen (Step policy look)

/-- What comes out of a scan that has ended. -/
def outcome (s : LoggedPool) : Except ScanError ScanResult :=
  match s.pool.broken with
  | some e => .error (.badGlob e)
  | none =>
    ({ s.pool.state with
        result := { s.pool.state.result with errors := s.log } } : ScanState).outcome

/-- The list has the errors that were counted and those that are about to be. -/
structure Sound (s : LoggedPool) : Prop where
  once : s.ahead.Nodup
  about : ∀ turn ∈ s.ahead, s.pool.error? turn ≠ none
  log : s.log.Perm (s.pool.state.result.errors ++ s.ahead.filterMap s.pool.error?)

/-- At the start nothing is on the list. -/
theorem sound_start (walk : Walk) (workers : Nat) : (start walk workers).Sound := by
  refine ⟨List.nodup_nil, ?_, List.Perm.refl _⟩
  intro turn impossible
  cases impossible

/-- A step keeps the list sound. -/
theorem Sound.step {s next : LoggedPool} (h : s.Sound) (step : Step policy look s next) :
    next.Sound := by
  cases step with
  | log turn entry about new =>
    refine ⟨List.nodup_cons.mpr ⟨new, h.once⟩, ?_, ?_⟩
    · intro other member
      rcases List.mem_cons.mp member with rfl | old
      · rw [about]
        exact Option.some_ne_none entry
      · exact h.about other old
    · rw [List.filterMap_cons_some about]
      calc (s.log ++ [entry]).Perm
            (s.pool.state.result.errors ++ s.ahead.filterMap s.pool.error? ++ [entry]) :=
          h.log.append_right _
        List.Perm _ (s.pool.state.result.errors ++
            (entry :: s.ahead.filterMap s.pool.error?)) := by
          rw [List.append_assoc]
          exact (List.perm_append_singleton entry _).append_left _
  | go turn after goes ready =>
    -- What the others are about to do stays as it was.
    have others : ∀ other ∈ s.ahead.erase turn, other ≠ turn ∧
        after.error? other = s.pool.error? other := by
      intro other member
      have differ : other ≠ turn := by
        rintro rfl
        exact h.once.not_mem_erase member
      exact ⟨differ, by rw [Pool.error?, Pool.error?, Pool.about_of_turn goes differ]⟩
    have kept : (s.ahead.erase turn).filterMap after.error? =
        (s.ahead.erase turn).filterMap s.pool.error? :=
      List.filterMap_congr fun other member => (others other member).2
    have split : (s.ahead.filterMap s.pool.error?).Perm
        ((s.pool.error? turn).toList ++ (s.ahead.erase turn).filterMap s.pool.error?) := by
      by_cases member : turn ∈ s.ahead
      · have moved := (List.perm_cons_erase member).filterMap s.pool.error?
        cases about : s.pool.error? turn with
        | none => exact absurd about (h.about turn member)
        | some entry =>
          rw [List.filterMap_cons_some about] at moved
          exact moved
      · rw [ready.resolve_right member, List.erase_of_not_mem member]
        exact List.Perm.refl _
    refine ⟨h.once.erase turn, ?_, ?_⟩
    · intro other member
      rw [(others other member).2]
      exact h.about other (List.mem_of_mem_erase member)
    · change s.log.Perm (after.state.result.errors ++ (s.ahead.erase turn).filterMap after.error?)
      rw [Pool.errors_of_turn goes, kept, List.append_assoc]
      exact h.log.trans (split.append_left _)

/-- The list is sound at all times. -/
theorem sound_of_reaches {s : LoggedPool} (reached : Reaches policy look (start walk workers) s) :
    s.Sound := by
  induction reached with
  | refl => exact sound_start walk workers
  | tail _ step ih => exact ih.step step

/-- Once the walker and all workers have ended, the list has what was counted and nothing else. -/
theorem Sound.agrees {s : LoggedPool} (h : s.Sound) (ended : s.pool.Ended) :
    s.log.Perm s.pool.state.result.errors := by
  have nobody : s.ahead = [] := List.eq_nil_iff_forall_not_mem.mpr fun turn member =>
    h.about turn member (ended.entry_none turn)
  have listed := h.log
  rwa [nobody, List.filterMap_nil, List.append_nil] at listed

/-- Apart from the list, the steps of a scan are turns. -/
theorem runs_of_reaches {s : LoggedPool} (reached : Reaches policy look (start walk workers) s) :
    ∃ taken, Pool.Runs policy look (Pool.start walk workers) taken s.pool := by
  induction reached with
  | refl => exact ⟨[], .start _⟩
  | tail _ step ih =>
    obtain ⟨taken, runs⟩ := ih
    cases step with
    | log turn entry about new => exact ⟨taken, runs⟩
    | go turn after goes ready => exact ⟨_, .step turn runs goes⟩

/-- While somebody can go on, there is a step. -/
theorem exists_step {s : LoggedPool} {turn : Turn} {after : Pool}
    (goes : s.pool.turn policy look turn = some after) : ∃ next, Step policy look s next := by
  by_cases ready : s.pool.error? turn = none ∨ turn ∈ s.ahead
  · exact ⟨_, .go s turn after goes ready⟩
  · obtain ⟨some_, new⟩ := not_or.mp ready
    obtain ⟨entry, about⟩ := Option.ne_none_iff_exists'.mp some_
    exact ⟨_, .log s turn entry about new⟩

/-- There is a next step as long as the scan has not ended. -/
theorem exists_step_of_not_ended {s : LoggedPool} (whole : walk.broken = none) (some_ : 0 < workers)
    (reached : Reaches policy look (start walk workers) s) (going : ¬s.pool.Ended) :
    ∃ next, Step policy look s next := by
  obtain ⟨taken, runs⟩ := runs_of_reaches reached
  by_contra none_
  refine going (Pool.ended_of_stuck whole some_ runs fun turn => ?_)
  cases goes : s.pool.turn policy look turn with
  | none => rfl
  | some after => exact absurd (exists_step goes) none_

/-- How many could put a failure on the list first. -/
def unlogged (s : LoggedPool) : Nat :=
  (s.pool.turns.filter (· ∉ s.ahead)).length

/-- No scan goes on forever: every turn takes away from what is left to do, and in between only so
many failures can be put on the list. -/
theorem step_wellFounded (policy : AbortPolicy) (look : Path → List ScanEvent) :
    WellFounded fun after before => Step policy look before after := by
  have measured := InvImage.wf (fun s : LoggedPool => (s.pool.work look, s.unlogged))
    (Prod.lex ⟨_, wellFounded_lt⟩ ⟨_, wellFounded_lt⟩).wf
  refine Subrelation.wf ?_ measured
  intro after before step
  cases step with
  | log turn entry about new =>
    refine Prod.Lex.right _ ?_
    have fewer : ((before.pool.turns.filter (· ∉ before.ahead)).filter (· ≠ turn)).length <
        (before.pool.turns.filter (· ∉ before.ahead)).length := by
      refine List.length_filter_lt_length_iff_exists.mpr ⟨turn, ?_, by simp⟩
      exact List.mem_filter.mpr ⟨Pool.mem_turns_of_entry about, by simpa using new⟩
    have same : before.pool.turns.filter (· ∉ turn :: before.ahead) =
        (before.pool.turns.filter (· ∉ before.ahead)).filter (· ≠ turn) := by
      rw [List.filter_filter]
      refine List.filter_congr fun other _ => ?_
      simp
    change (before.pool.turns.filter (· ∉ turn :: before.ahead)).length < _
    rw [same]
    exact fewer
  | go turn next goes ready => exact Prod.Lex.left _ _ (Pool.turn_work policy look _ _ turn goes)

/-- A reason to give up stays what it is. -/
theorem abort_of_reaches {s later : LoggedPool} {reason : Abort}
    (reached : Reaches policy look s later) (given : s.pool.state.abort = some reason) :
    later.pool.state.abort = some reason := by
  induction reached with
  | refl => exact given
  | tail _ step ih =>
    cases step with
    | log turn entry about new => exact ih
    | go turn after goes ready => exact Pool.abort_of_turn ih goes

end LoggedPool

/-- How a scan ends does not depend on what else is on its list of errors. -/
theorem Ends.of_errors {s : ScanState} {ending : Ending} (h : Ends s.outcome ending)
    {log : ErrorLog} (within : ∀ entry ∈ s.result.errors, entry ∈ log) :
    Ends ({ s with result := { s.result with errors := log } } : ScanState).outcome ending := by
  unfold ScanState.outcome at h ⊢
  dsimp only
  cases given : s.abort with
  | none =>
    rw [given] at h
    cases h
    exact .returned _
  | some reason =>
    rw [given] at h
    cases h with
    | strict path failure result named => exact .strict path failure _ (within _ named)
    | tooManyErrors limit result => exact .tooManyErrors limit _

/-- Once it has ended, a scan along a walk shows the ending that the number of failures of the walk
says. -/
theorem LoggedPool.ends_of_reaches {policy : AbortPolicy} {look : Path → List ScanEvent}
    {walk : Walk} {workers : Nat} {s : LoggedPool} (whole : walk.broken = none)
    (some_ : 0 < workers) (reached : Reaches policy look (start walk workers) s)
    (ended : s.pool.Ended) : Ends s.outcome (policy.ending (walk.failures look)) := by
  obtain ⟨taken, runs⟩ := runs_of_reaches reached
  obtain ⟨unbroken, events, state, ending⟩ := Pool.ending_of_runs whole some_ runs ended
  have counted : Ends s.pool.state.outcome (policy.ending (walk.failures look)) := by
    rw [state, ← ending]
    exact ScanState.ends_of_recordAll policy events
  have complete := (sound_of_reaches reached).agrees ended
  rw [outcome, unbroken]
  exact counted.of_errors fun entry member => complete.mem_iff.mpr member

/-- So does the scan in which workers go before the walker. -/
theorem Walk.scanWithWorkers_ends {walk : Walk} (whole : walk.broken = none) (policy : AbortPolicy)
    (look : Path → List ScanEvent) {workers : Nat} (some_ : 0 < workers) :
    Ends (walk.scanWithWorkers policy look workers) (policy.ending (walk.failures look)) := by
  have busy : 0 < min workers (walk.visits.length + 1) := lt_min some_ (Nat.succ_pos _)
  obtain ⟨taken, runs⟩ := @Pool.runs_run policy look
    (Pool.start walk (min workers (walk.visits.length + 1)))
  have ended := Pool.ended_of_stuck whole busy runs (Pool.stuck_of_next (Pool.next_run _))
  obtain ⟨unbroken, events, state, ending⟩ := Pool.ending_of_runs whole busy runs ended
  unfold Walk.scanWithWorkers
  dsimp only
  rw [unbroken]
  dsimp only
  rw [state, ← ending]
  exact ScanState.ends_of_recordAll policy events

/-- The same options for a scan without workers that no failure ends. -/
def ScanOptions.unlimited (o : ScanOptions) : ScanOptions :=
  { o with concurrent := false, strict := false, maxErrors := 0 }

namespace Site

variable {site : Site} {path : Path} {o : ScanOptions} {plan : WalkPlan}

/-- A scan that no failure ends comes to all failures of the walk. -/
theorem scan_unlimited (reaches : site.Reaches path o plan) (readable : plan.Readable)
    (registry : Registry) :
    ∃ full, site.scan registry path o.unlimited = .ok full ∧
      full.failed = (site.walkOf o plan).failures (site.lookOf registry o) := by
  have same : site.Reaches path o.unlimited plan := ⟨reaches.root, reaches.there, reaches.planned⟩
  have tolerated : site.Tolerates registry o.unlimited plan :=
    AbortPolicy.tolerates_default _
  exact ⟨_, scan_sequential same readable tolerated, rfl⟩

/-- How a scan ends is decided by its options and by how many failures a scan without limits comes
to. It returns if that comes to none. If no failure is allowed, one of the failures ends it, and
that is on the list of errors, with the words that the scan is given up with. Otherwise it is ended
if there are as many failures as the limit, if there is one, and returns if there are fewer.

This holds without workers, with the workers of the options, and for any number of workers that go
on in any order, between whose turns errors may be on the list that are not counted yet. Such a scan
comes to an end, as it takes no infinite number of steps and does not get stuck, and once there is a
reason to give it up that stays what it is. -/
theorem scan_ends (site : Site) (registry : Registry) (path : Path) (o : ScanOptions)
    (plan : WalkPlan) (reaches : site.Reaches path o plan) (readable : plan.Readable) :
    (∀ file failure, (Abort.strict file failure).message =
      "strict mode: " ++ (failure.entry file).text) ∧
    ∃ full, site.scan registry path o.unlimited = .ok full ∧
      Ends (site.scan registry path (o.withConcurrent false)) (o.policy.ending full.failed) ∧
      (0 < o.workerCount site.processors →
        Ends (site.scan registry path (o.withConcurrent true)) (o.policy.ending full.failed)) ∧
      WellFounded (fun after before =>
        LoggedPool.Step o.policy (site.lookOf registry o) before after) ∧
      ∀ workers s, 0 < workers →
        LoggedPool.Reaches o.policy (site.lookOf registry o)
            (LoggedPool.start (site.walkOf o plan) workers) s →
        (s.pool.Ended ∨ ∃ next, LoggedPool.Step o.policy (site.lookOf registry o) s next) ∧
        (s.pool.Ended → Ends s.outcome (o.policy.ending full.failed)) ∧
        ∀ reason later, s.pool.state.abort = some reason →
          LoggedPool.Reaches o.policy (site.lookOf registry o) s later →
          later.pool.state.abort = some reason := by
  obtain ⟨full, returned, failed⟩ := scan_unlimited reaches readable registry
  have whole := readable.walk_broken site o.followLinks
  refine ⟨Abort.message_strict, full, returned, ?_, ?_, LoggedPool.step_wellFounded _ _, ?_⟩
  · have reached := (reaches_withConcurrent false).mpr reaches
    rw [reached.scan_eq registry (Or.inl rfl), failed]
    exact Walk.ends_of_scan whole o.policy (site.lookOf registry o)
  · intro able
    have reached := (reaches_withConcurrent true).mpr reaches
    have several : 0 < (o.workerCount site.processors).toNat := by omega
    rw [reached.scan_eq registry (Or.inr able), failed]
    exact Walk.scanWithWorkers_ends whole o.policy (site.lookOf registry o) several
  · intro workers s some_ reached
    refine ⟨?_, ?_, fun reason later given more => LoggedPool.abort_of_reaches more given⟩
    · by_cases ended : s.pool.Ended
      · exact Or.inl ended
      · exact Or.inr (LoggedPool.exists_step_of_not_ended whole some_ reached ended)
    · intro ended
      rw [failed]
      exact LoggedPool.ends_of_reaches whole some_ reached ended

/-- A directory with two files, one of which fails. If no failure is allowed, then that one ends the
scan, with two workers and with none. -/
theorem scan_ends_in_pair :
    pair.Reaches ⟨1, ["src"]⟩ { pairOptions with strict := true } pairPlan ∧ pairPlan.Readable ∧
    Ends (pair.scan .standard ⟨1, ["src"]⟩
      ({ pairOptions with strict := true }.withConcurrent false)) .strict ∧
    Ends (pair.scan .standard ⟨1, ["src"]⟩
      ({ pairOptions with strict := true }.withConcurrent true)) .strict := by
  have reaches : pair.Reaches ⟨1, ["src"]⟩ { pairOptions with strict := true } pairPlan :=
    ⟨pair_reaches.root, pair_reaches.there, pair_reaches.planned⟩
  obtain ⟨-, full, returned, alone, together, -⟩ :=
    scan_ends pair .standard ⟨1, ["src"]⟩ { pairOptions with strict := true } pairPlan reaches
      pair_readable
  obtain ⟨same, again, failed⟩ := scan_unlimited reaches pair_readable .standard
  have one : full.failed = 1 := by
    rw [Except.ok.inj (returned.symm.trans again), failed]
    exact pair_failures
  rw [one] at alone together
  exact ⟨reaches, pair_readable, alone, together (by decide)⟩

end Site

end DocGraph
