import DocGraph.Proofs.Scan.Cutoff
import DocGraph.Proofs.Scan.Once
import DocGraph.Proofs.Scan.Returned

/-!
# The counts of a scan add up

A scan counts the files that it looks at where it looks at them, and again where the file system
says nothing about one of them or a directory cannot be listed. It counts its failures apart from
the list of errors. `ScanResult.Balanced` says that the counts fit what was found: there are as many
failures as errors, a path comes up in one record or one error at most, and the files that were
looked at are those with a record, those that failed, and those that were passed over.

The books are kept by visit. The events of one visit balance, and a scan that has ended has taken in
the events of all visits up to some visit, whether it returns or is given up and whatever the
workers do.
-/

set_option autoImplicit false

namespace DocGraph

open ScanStep (events)

/-- What a scan leaves when it has ended: what it returns, or what it was given up with. -/
def Leaves (outcome : Except ScanError ScanResult) (r : ScanResult) : Prop :=
  outcome = .ok r ∨ ∃ reason, outcome = .error (.aborted reason r)

/-- The path that an event is about, if it keeps a record or is a failure. -/
def ScanEvent.subject? : ScanEvent → Option Path
  | .scanned => none
  | .kept record => some record.path
  | .failed path _ _ => some path

namespace ScanResult

/-- The counts of a result fit what is in it, if so many files were passed over. -/
structure Balanced (r : ScanResult) (skipped : Nat) : Prop where
  failed : r.failed = r.errors.length
  once : (r.files.map (fun record => record.path.toString) ++
    r.errors.map CollectedError.file).Nodup
  scanned : r.scanned = r.files.length + r.failed + skipped
  within : r.files.length + r.failed ≤ r.scanned

/-- The counts still fit when files and errors come in another order. -/
theorem Balanced.alike {first second : ScanResult} {skipped : Nat} (h : second.Balanced skipped)
    (same : first.Alike second) : first.Balanced skipped := by
  have files := same.files.length_eq
  have errors := same.errors.length_eq
  refine ⟨?_, ?_, ?_, ?_⟩
  · rw [same.failed, errors, h.failed]
  · refine (List.Perm.nodup_iff ?_).mpr h.once
    exact (same.files.map _).append (same.errors.map _)
  · rw [same.scanned, files, same.failed, h.scanned]
  · rw [same.scanned, files, same.failed]
    exact h.within

/-! ## By event -/

/-- Each failure is on the list of errors. -/
theorem failed_ofEvents (es : List ScanEvent) :
    (ofEvents es).failed = (ofEvents es).errors.length := by
  unfold ofEvents
  dsimp only
  rw [List.length_filterMap_eq_countP]
  refine List.countP_congr fun event _ => ?_
  cases event <;> simp [ScanEvent.isFailure, ScanEvent.error?]

/-- The paths of records and errors are those that the events are about. -/
theorem texts_ofEvents (es : List ScanEvent) :
    ((ofEvents es).files.map (fun record => record.path.toString) ++
      (ofEvents es).errors.map CollectedError.file).Perm
    ((es.filterMap ScanEvent.subject?).map Path.toString) := by
  induction es with
  | nil => exact List.Perm.refl _
  | cons event rest ih =>
    cases event with
    | scanned => exact ih
    | kept record => exact ih.cons _
    | failed path failure counts => exact List.perm_middle.trans (ih.cons _)

end ScanResult

/-- Among events, the files that were looked at are those with a record, those that failed, and so
many others. -/
def ScanEvent.Counted (es : List ScanEvent) (skipped : Nat) : Prop :=
  es.countP counts = (es.filterMap kept?).length + es.countP isFailure + skipped

/-- Events that follow each other add up. -/
theorem ScanEvent.Counted.append {first second : List ScanEvent} {n m : Nat}
    (h : Counted first n) (h' : Counted second m) : Counted (first ++ second) (n + m) := by
  unfold Counted at h h' ⊢
  rw [List.countP_append, List.filterMap_append, List.length_append, List.countP_append]
  omega

/-- A failure that counts as having looked at a file is one file. -/
theorem ScanEvent.counted_failed (path : Path) (failure : Failure) :
    Counted [.failed path failure true] 0 :=
  rfl

/-! ## By visit -/

namespace Site

variable {site : Site} {criteria : Criteria}

/-- Whether a file that a scan looks at is passed over, as its language is not known or it is too
large. -/
def skips (site : Site) (criteria : Criteria) (path : Path) : Bool :=
  match site.status path with
  | .error _ => false
  | .ok file =>
    !criteria.admits (criteria.registry.detect path.toString) file.content.length

/-- Unless there is a null character in a path, it is the file system that says why nothing can be
found out about a file. -/
theorem reported_of_status {path : Path} (noNull : path.hasNull = false) {fault : SystemFault}
    (fails : site.status path = .error fault) : fault.code?.isSome = true := by
  unfold status at fails
  split at fails
  next reported refused =>
    cases fails
    exact reported.2
  · split at fails
    · cases fails
    · cases fails
      rfl
    next other found =>
      cases fails
      cases fault with
      | nullCharacter => exact absurd found (site.files.locate_ne_nullCharacter noNull)
      | _ => rfl

/-- A file that is looked at has a record, has failed or is passed over. -/
theorem counted_inspect (site : Site) (criteria : Criteria) {path : Path}
    (noNull : path.hasNull = false) :
    ScanEvent.Counted (site.inspect criteria path) ([path].countP (site.skips criteria)) := by
  rw [List.countP_singleton]
  rcases site.inspect_cases criteria path with ⟨fault, none_, fails⟩ |
    ⟨file, found, ⟨refused, skipped⟩ | ⟨admitted, ⟨record, -, kept⟩ | ⟨failure, -, fails⟩⟩⟩
  · have looked : site.skips criteria path = false := by rw [skips, none_]
    rw [fails, looked, reported_of_status noNull none_]
    exact ScanEvent.counted_failed path _
  · have passed : site.skips criteria path = true := by
      rw [skips, found]
      exact congrArg not refused
    rw [skipped, passed]
    rfl
  · have looked : site.skips criteria path = false := by
      rw [skips, found]
      exact congrArg not admitted
    rw [kept, looked]
    rfl
  · have looked : site.skips criteria path = false := by
      rw [skips, found]
      exact congrArg not admitted
    rw [fails, looked]
    rfl

/-- What is found out about a file is about its path, and is a record or a failure. -/
theorem subjects_inspect (site : Site) (criteria : Criteria) (path : Path) :
    ((site.inspect criteria path).filterMap ScanEvent.subject?).Sublist [path] := by
  rcases site.inspect_cases criteria path with ⟨fault, -, fails⟩ |
    ⟨file, -, ⟨-, skipped⟩ | ⟨-, ⟨record, -, kept⟩ | ⟨failure, -, fails⟩⟩⟩
  · rw [fails]
    exact List.Sublist.refl _
  · rw [skipped]
    exact List.nil_sublist _
  · have inspected : .kept record ∈ site.inspect criteria path := by
      rw [kept]
      exact List.mem_cons_of_mem _ List.mem_cons_self
    rw [kept, ← path_of_inspect inspected]
    exact List.Sublist.refl _
  · rw [fails]
    exact List.Sublist.refl _

/-- The events of some visits are about the paths that come up in these. -/
theorem subjects_visits (site : Site) (criteria : Criteria) (visits : List Visit) :
    ((visits.flatMap (Visit.events (site.inspect criteria))).filterMap
      ScanEvent.subject?).Sublist (visits.filterMap Visit.subject?) := by
  induction visits with
  | nil => exact List.Sublist.slnil
  | cons visit rest ih =>
    rw [List.flatMap_cons, List.filterMap_append]
    cases visit with
    | listed directory => exact ih
    | candidate path => exact (site.subjects_inspect criteria path).append ih
    | failed path failure => exact ih.cons_cons path

/-- The events of some visits count each candidate among these once. -/
theorem counted_visits (site : Site) (criteria : Criteria) (visits : List Visit)
    (noNull : ∀ path, .candidate path ∈ visits → path.hasNull = false) :
    ScanEvent.Counted (visits.flatMap (Visit.events (site.inspect criteria)))
      ((visits.filterMap Visit.candidate?).countP (site.skips criteria)) := by
  induction visits with
  | nil => rfl
  | cons visit rest ih =>
    have later := ih fun path member => noNull path (List.mem_cons_of_mem _ member)
    rw [List.flatMap_cons]
    cases visit with
    | listed directory => exact later
    | failed path failure =>
      have here := (ScanEvent.counted_failed path failure).append later
      rwa [Nat.zero_add] at here
    | candidate path =>
      have here := (site.counted_inspect criteria (noNull path List.mem_cons_self)).append later
      rwa [← List.countP_append] at here

/-- What the visits of a walk up to some visit add up to is balanced. -/
theorem balanced_visits (plan : WalkPlan) (tree : site.files.WellFormed) {followLinks : Bool}
    {kept dropped : List Visit} (split : (plan.walk site followLinks).visits = kept ++ dropped) :
    (ScanResult.ofEvents (kept.flatMap (Visit.events (site.inspect criteria)))).Balanced
      ((kept.filterMap Visit.candidate?).countP (site.skips criteria)) := by
  have scanned : (ScanResult.ofEvents _).scanned = (ScanResult.ofEvents _).files.length +
    (ScanResult.ofEvents _).failed + _ :=
      site.counted_visits criteria kept fun path member =>
        WalkPlan.hasNull_of_candidate tree (split ▸ List.mem_append_left _ member)
  obtain ⟨inside, once⟩ := plan.confined_walk tree followLinks
  have some_ : (kept.filterMap Visit.subject?).Sublist (plan.walk site followLinks).subjects := by
    rw [Walk.subjects, split, List.filterMap_append]
    exact List.sublist_append_left _ _
  refine ⟨ScanResult.failed_ofEvents _, ?_, scanned, by omega⟩
  refine (ScanResult.texts_ofEvents _).nodup_iff.mpr ?_
  -- Below one root, paths that are written alike are the same.
  refine List.Nodup.map_on ?_ (once.sublist ((site.subjects_visits criteria kept).trans some_))
  intro p left q right same
  have within := fun path member =>
    inside path (((site.subjects_visits criteria kept).trans some_).subset member)
  exact (within p left).eq_of_toString (within q right) same

end Site

/-! ## Without workers -/

namespace ScanStep

/-- The file that a step looks at, if it does. -/
def processed? : ScanStep → Option Path
  | .ask (.status path) => some path
  | _ => none

/-- The files that steps look at. -/
def processed (steps : List ScanStep) : List Path :=
  steps.filterMap processed?

/-- The files of steps that follow each other do so, too. -/
theorem processed_append (first second : List ScanStep) :
    processed (first ++ second) = processed first ++ processed second :=
  List.filterMap_append

end ScanStep

open ScanStep (processed processed_append)

namespace Site

/-- Looking at a file looks at that file. -/
theorem processed_stepsAt (site : Site) (criteria : Criteria) (path : Path) :
    processed (site.stepsAt criteria path) = [path] := by
  unfold stepsAt
  cases site.status path with
  | error fault => rfl
  | ok file =>
    dsimp only
    split
    · split <;> rfl
    · rfl

end Site

/-- The queries of a stretch are not about what a file is like. -/
def Stretch.Quiet (s : Stretch) : Prop :=
  ∀ path, .status path ∉ s.asked

namespace Stretch

variable {look : Path → List ScanStep} {s : Stretch}

/-- In a stretch, the candidates are looked at and nothing else. -/
theorem Quiet.processed_steps (h : s.Quiet) (own : ∀ path, processed (look path) = [path]) :
    processed (s.steps look) = s.visit?.toList.filterMap Visit.candidate? := by
  have nothing : processed (s.asked.map .ask) = [] := by
    refine List.filterMap_eq_nil_iff.mpr fun step member => ?_
    obtain ⟨query, asked, rfl⟩ := List.mem_map.mp member
    cases query with
    | status path => exact absurd asked (h path)
    | listing directory => rfl
    | kind path => rfl
    | content path => rfl
  rw [steps, processed_append, nothing, List.nil_append]
  cases s.visit? with
  | none => rfl
  | some visit =>
    rw [Option.toList_some, List.flatMap_singleton]
    cases visit with
    | listed directory => rfl
    | candidate path => exact own path
    | failed path failure => rfl

end Stretch

namespace WalkPlan

variable {plan : WalkPlan}

/-- On a course nothing is asked about what a file is like. -/
theorem quiet_course (plan : WalkPlan) (site : Site) (followLinks : Bool) :
    ∀ s ∈ plan.course site followLinks, s.Quiet := by
  intro s member path asked
  obtain ⟨directory, -, done⟩ :=
    stretch_of_round (motive := fun _ => True) trivial (fun _ _ _ _ => trivial) member
  obtain ⟨visit, -, -, rfl⟩ | ⟨entries, -, e, -, rfl⟩ := mem_round done
  · cases List.mem_singleton.mp asked
  · cases (meet_asked asked).1

end WalkPlan

namespace Account

variable {policy : AbortPolicy} {look : Path → List ScanStep}

/-- Whoever goes on with a course takes in the visits of its walk up to some visit, and looks at the
candidates among these. -/
theorem foldl_kept (own : ∀ path, processed (look path) = [path]) (p : Account)
    (going : p.halted = false) (course : List Stretch) (quiet : ∀ s ∈ course, s.Quiet) :
    ∃ kept dropped, (Walk.ofCourse course).visits = kept ++ dropped ∧
      (course.foldl (advance policy look) p).state =
        p.state.recordAll policy (kept.flatMap (Visit.events fun path => events (look path))) ∧
      processed (course.foldl (advance policy look) p).steps =
        processed p.steps ++ kept.filterMap Visit.candidate? := by
  induction course generalizing p with
  | nil => exact ⟨[], [], rfl, rfl, (List.append_nil _).symm⟩
  | cons s rest ih =>
    have here := (quiet s List.mem_cons_self).processed_steps own
    rw [List.foldl_cons, advance_of_going going, Walk.ofCourse_cons]
    by_cases stops : s.broken = none ∧
        (p.state.recordAll policy (events (s.steps look))).abort = none
    · obtain ⟨whole, goOn⟩ := stops
      obtain ⟨kept, dropped, split, state, looked⟩ :=
        ih ⟨p.steps ++ s.steps look, p.state.recordAll policy (events (s.steps look)), s.broken⟩
          (by simp [halted, whole, goOn]) fun t member => quiet t (List.mem_cons_of_mem _ member)
      refine ⟨s.visit?.toList ++ kept, dropped, ?_, ?_, ?_⟩
      · rw [Walk.andThen_visits whole, split, List.append_assoc]
        rfl
      · rw [state, Stretch.events_steps, List.flatMap_append, ScanState.recordAll_append]
      · rw [looked, processed_append, here, List.filterMap_append, List.append_assoc]
    · -- Whatever stops the scan here, what it has done is its stretches up to this one.
      rw [foldl_of_halted]
      · obtain ⟨dropped, split⟩ : ∃ dropped,
            (s.walk.andThen (Walk.ofCourse rest)).visits = s.visit?.toList ++ dropped := by
          unfold Walk.andThen
          split
          · exact ⟨[], (List.append_nil _).symm⟩
          · exact ⟨_, rfl⟩
        refine ⟨s.visit?.toList, dropped, split, ?_, ?_⟩
        · rw [Stretch.events_steps]
        · rw [processed_append, here]
      · by_contra goesOn
        rw [halted, Bool.not_eq_true, Bool.or_eq_false_iff] at goesOn
        exact stops ⟨by simpa using goesOn.2, by simpa using goesOn.1⟩

end Account

/-! ## When a scan has ended -/

/-- With such an error a scan leaves nothing. -/
def ScanError.Bare (e : ScanError) : Prop :=
  ∀ reason r, e ≠ .aborted reason r

/-- A scan that fails with such an error has no result. -/
theorem ScanError.Bare.not_leaves {e : ScanError} (bare : e.Bare) (r : ScanResult) :
    ¬Leaves (.error e) r := by
  rintro (impossible | ⟨reason, same⟩)
  · cases impossible
  · exact bare reason r (Except.error.inj same)

/-- A pattern that cannot be compiled leaves no result. -/
theorem ScanError.bare_badGlob (e : GlobError) : (ScanError.badGlob e).Bare := by
  intro reason r impossible
  cases impossible

/-- What the outcome of a state leaves is the result in it. -/
theorem ScanState.result_of_leaves {s : ScanState} {r : ScanResult} (h : Leaves s.outcome r) :
    r = s.result := by
  unfold outcome at h
  rcases h with returned | ⟨reason, givenUp⟩
  · split at returned
    · cases returned
    · exact (Except.ok.inj returned).symm
  · split at givenUp
    · cases givenUp
      rfl
    · cases givenUp

/-- What a scan without workers leaves is the result in its state. -/
theorem Account.result_of_leaves {p : Account} {r : ScanResult} (h : Leaves p.outcome r) :
    r = p.state.result := by
  unfold outcome at h
  split at h
  · exact absurd h ((ScanError.bare_badGlob _).not_leaves r)
  · exact ScanState.result_of_leaves h

/-- What a scan with workers leaves is the result in its last state. -/
theorem Walk.result_of_leaves {policy : AbortPolicy} {look : Path → List ScanEvent}
    {workers : Nat} {walk : Walk} {r : ScanResult}
    (h : Leaves (walk.scanWithWorkers policy look workers) r) :
    r = ((Pool.start walk (min workers (walk.visits.length + 1))).run policy look).state.result := by
  unfold scanWithWorkers at h
  dsimp only at h
  split at h
  · exact absurd h ((ScanError.bare_badGlob _).not_leaves r)
  · exact ScanState.result_of_leaves h

/-- What a scan with a list of errors leaves is its result, with that list. -/
theorem LoggedPool.result_of_leaves {s : LoggedPool} {r : ScanResult} (h : Leaves s.outcome r) :
    r = { s.pool.state.result with errors := s.log } := by
  unfold outcome at h
  split at h
  · exact absurd h ((ScanError.bare_badGlob _).not_leaves r)
  · exact ScanState.result_of_leaves h

namespace Site

variable {site : Site} {registry : Registry} {path : Path} {o : ScanOptions} {plan : WalkPlan}

/-- A path that cannot be resolved leaves no result. -/
theorem bare_of_root {e : ScanError} (h : site.root path = .error e) : e.Bare := by
  rintro reason r rfl
  unfold Site.root at h
  split at h <;> cases h

/-- A root that is not a directory leaves no result. -/
theorem bare_of_checkRoot {e : ScanError} (h : site.checkRoot path = .error e) : e.Bare := by
  rintro reason r rfl
  unfold checkRoot at h
  split at h <;> cases h

/-- Rules that cannot be read leave no result. -/
theorem bare_of_rulesOfFile {e : ScanError} (h : site.rulesOfFile path = .error e) : e.Bare := by
  rintro reason r rfl
  unfold rulesOfFile at h
  split at h <;> cases h

/-- Only reading the ignore files can fail, and that leaves nothing. -/
theorem bare_of_plan {e : ScanError} (h : site.plan path o = .error e) : e.Bare := by
  obtain ⟨name, -, fails⟩ := exists_file_of_plan_error h
  exact bare_of_rulesOfFile fails

/-- A scan that leaves a result has walked according to a plan. -/
theorem planned_of_leaves {r : ScanResult} (h : Leaves (site.scan registry path o) r) :
    ∃ plan, site.Reaches path o plan ∧
      (o.concurrent = false ∨ 0 < o.workerCount site.processors) ∧
      Leaves (site.scanPlanned registry plan o) r := by
  cases prepared : site.prepared path o with
  | error e =>
    have fails : site.scan registry path o = .error e ∧ e.Bare := by
      unfold Site.prepared at prepared
      unfold Site.scan
      cases resolved : site.root path with
      | error e' =>
        rw [resolved] at prepared
        cases prepared
        exact ⟨rfl, bare_of_root resolved⟩
      | ok root =>
        simp only [resolved, bind, Except.bind] at prepared ⊢
        cases there : site.checkRoot root with
        | error e' =>
          rw [there] at prepared
          cases prepared
          exact ⟨rfl, bare_of_checkRoot there⟩
        | ok present =>
          rw [there] at prepared
          dsimp only at prepared ⊢
          rw [prepared]
          exact ⟨rfl, bare_of_plan prepared⟩
    rw [fails.1] at h
    exact absurd h (fails.2.not_leaves r)
  | ok plan =>
    have reaches := prepared_eq_ok_iff.mp prepared
    by_cases able : o.concurrent = false ∨ 0 < o.workerCount site.processors
    · rw [reaches.scan_eq registry able] at h
      exact ⟨plan, reaches, able, h⟩
    · obtain ⟨several, nobody⟩ := not_or.mp able
      rw [scan_of_noWorkers reaches (Bool.not_eq_false _ ▸ several) (by omega)] at h
      have bare : ScanError.noWorkers.Bare := fun reason r impossible => by cases impossible
      exact absurd h (bare.not_leaves r)

/-- Without workers, the books balance with the files that the steps of the scan look at. -/
theorem balanced_steps (tree : site.files.WellFormed) (alone : o.concurrent = false)
    {r : ScanResult} (h : Leaves (site.scan registry path o) r) :
    r = .ofEvents (events (site.steps registry path o)) ∧
      r.Balanced ((processed (site.steps registry path o)).countP
        (site.skips (o.criteria registry))) := by
  obtain ⟨plan, reaches, -, left⟩ := planned_of_leaves h
  have steps : site.steps registry path o = (site.accountOf registry o plan).steps := by
    rw [Site.steps, prepared_eq_ok_iff.mpr reaches]
  rw [scanPlanned_eq registry plan alone] at left
  have result := Account.result_of_leaves left
  have noted : (site.accountOf registry o plan).Noted o.policy := Account.noted_through _
  obtain ⟨kept, dropped, split, state, looked⟩ :=
    @Account.foldl_kept o.policy _ (site.processed_stepsAt (o.criteria registry)) {} rfl
      (plan.course site o.followLinks) (plan.quiet_course site o.followLinks)
  have found : r = .ofEvents (kept.flatMap (Visit.events (site.inspect (o.criteria registry)))) := by
    rw [result, ← ScanState.recordAll_result o.policy]
    exact congrArg ScanState.result state
  constructor
  · rw [steps, result, noted, ScanState.recordAll_result]
  · have same : processed (site.accountOf registry o plan).steps =
        kept.filterMap Visit.candidate? := looked
    rw [steps, same, found]
    exact site.balanced_visits plan tree split

/-- With workers, they balance with the files that the workers have taken. -/
theorem balanced_taken (plan : WalkPlan) (tree : site.files.WellFormed) {policy : AbortPolicy}
    {criteria : Criteria} {followLinks : Bool} {workers : Nat} {taken : List Path} {pool : Pool}
    (some_ : 0 < workers) (runs : Pool.Runs policy (site.inspect criteria)
      (Pool.start (plan.walk site followLinks) workers) taken pool) (ended : pool.Ended) :
    pool.state.result.Balanced (taken.countP (site.skips criteria)) := by
  obtain ⟨kept, dropped, split, took, alike, -⟩ := Pool.kept_of_runs some_ runs ended
  rw [took]
  exact (site.balanced_visits plan tree split).alike alike

/-- Whatever the tree, the options and the faults are, once a scan has ended its counts fit what it
leaves, whether it returns or is given up: as many failures as errors, no path in two of the records
and errors, and as many files looked at as there are records, failures, and files that were passed
over among those that were processed.

Without workers these are the files that the steps of the scan look at. With workers they are those
that the workers have taken, in the scan with the workers of the options, and for any number of
workers that go on in any order, between whose turns errors may be on the list that are not counted
yet. -/
theorem scan_balances (site : Site) (registry : Registry) (path : Path) (o : ScanOptions)
    (tree : site.files.WellFormed) :
    (∀ r, Leaves (site.scan registry path (o.withConcurrent false)) r →
      r = .ofEvents (events (site.steps registry path (o.withConcurrent false))) ∧
      r.Balanced ((processed (site.steps registry path (o.withConcurrent false))).countP
        (site.skips (o.criteria registry)))) ∧
    (∀ r, Leaves (site.scan registry path (o.withConcurrent true)) r →
      ∃ plan workers taken pool, site.Reaches path o plan ∧ 0 < workers ∧
        Pool.Runs o.policy (site.lookOf registry o)
          (Pool.start (site.walkOf o plan) workers) taken pool ∧
        pool.Ended ∧ r = pool.state.result ∧
        r.Balanced (taken.countP (site.skips (o.criteria registry)))) ∧
    ∀ plan workers s r, site.Reaches path o plan → 0 < workers →
      LoggedPool.Reaches o.policy (site.lookOf registry o)
        (LoggedPool.start (site.walkOf o plan) workers) s →
      s.pool.Ended → Leaves s.outcome r →
      ∃ taken, Pool.Runs o.policy (site.lookOf registry o)
          (Pool.start (site.walkOf o plan) workers) taken s.pool ∧
        r.Balanced (taken.countP (site.skips (o.criteria registry))) := by
  refine ⟨fun r left => balanced_steps tree rfl left, ?_, ?_⟩
  · intro r left
    obtain ⟨plan, reached, able, planned⟩ := planned_of_leaves left
    have reaches := (reaches_withConcurrent true).mp reached
    have several : 0 < (o.workerCount site.processors).toNat := by
      have positive := able.resolve_left (by simp [ScanOptions.withConcurrent])
      change 0 < o.workerCount site.processors at positive
      omega
    have busy : 0 < min (o.workerCount site.processors).toNat
        ((site.walkOf o plan).visits.length + 1) := lt_min several (Nat.succ_pos _)
    obtain ⟨taken, runs⟩ := @Pool.runs_run o.policy (site.lookOf registry o)
      (Pool.start (site.walkOf o plan) (min (o.workerCount site.processors).toNat
        ((site.walkOf o plan).visits.length + 1)))
    have ended := @Pool.ended_run o.policy (site.lookOf registry o) _ (site.walkOf o plan) busy
    have result := Walk.result_of_leaves planned
    refine ⟨plan, _, taken, _, reaches, busy, runs, ended, result, ?_⟩
    rw [result]
    exact balanced_taken plan tree busy runs ended
  · intro plan workers s r reaches some_ reached ended left
    obtain ⟨taken, runs⟩ := LoggedPool.runs_of_reaches reached
    have complete := (LoggedPool.sound_of_reaches reached).agrees ended
    refine ⟨taken, runs, (balanced_taken plan tree some_ runs ended).alike ?_⟩
    rw [LoggedPool.result_of_leaves left]
    exact ⟨List.Perm.refl _, complete, rfl, rfl⟩

/-- A directory with two files, one of which fails. If that failure ends the scan, what the scan was
given up with is balanced, with two workers and with none. -/
theorem scan_balances_in_pair :
    pair.files.WellFormed ∧ ∀ concurrent, ∃ r skipped,
      pair.scan .standard ⟨1, ["src"]⟩
          ({ pairOptions with maxErrors := 1 }.withConcurrent concurrent) =
        .error (.aborted (.tooManyErrors 1) r) ∧ r.Balanced skipped := by
  have reaches : pair.Reaches ⟨1, ["src"]⟩ { pairOptions with maxErrors := 1 } pairPlan :=
    ⟨pair_reaches.root, pair_reaches.there, pair_reaches.planned⟩
  have whole := pair_readable.walk_broken pair pairOptions.followLinks
  have ending : (AbortPolicy.mk false 1).ending
      ((pair.walkOf pairOptions pairPlan).failures (pair.lookOf .standard pairOptions)) =
        .tooManyErrors 1 := by
    rw [pair_failures]
    decide
  obtain ⟨alone, together, -⟩ := scan_balances pair .standard ⟨1, ["src"]⟩
    { pairOptions with maxErrors := 1 } pair_wellFormed
  refine ⟨pair_wellFormed, fun concurrent => ?_⟩
  have ends : Ends (pair.scan .standard ⟨1, ["src"]⟩
      ({ pairOptions with maxErrors := 1 }.withConcurrent concurrent)) (.tooManyErrors 1) := by
    have reached := (reaches_withConcurrent concurrent).mpr reaches
    have able : 0 < ({ pairOptions with maxErrors := 1 }.withConcurrent concurrent).workerCount
        pair.processors := by
      cases concurrent <;> decide
    rw [reached.scan_eq .standard (Or.inr able), ← ending]
    cases concurrent with
    | false => exact Walk.ends_of_scan whole _ _
    | true => exact Walk.scanWithWorkers_ends whole _ _ (by decide)
  generalize given : pair.scan .standard ⟨1, ["src"]⟩
    ({ pairOptions with maxErrors := 1 }.withConcurrent concurrent) = outcome at ends
  cases ends with
  | tooManyErrors limit r =>
    have left : Leaves (pair.scan .standard ⟨1, ["src"]⟩
        ({ pairOptions with maxErrors := 1 }.withConcurrent concurrent)) r :=
      Or.inr ⟨_, given⟩
    cases concurrent with
    | false => exact ⟨r, _, rfl, (alone r left).2⟩
    | true =>
      obtain ⟨plan, workers, taken, pool, -, -, -, -, -, balanced⟩ := together r left
      exact ⟨r, _, rfl, balanced⟩

end Site

end DocGraph
