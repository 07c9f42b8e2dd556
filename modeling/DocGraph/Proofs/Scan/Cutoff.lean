import DocGraph.Proofs.Scan.Course
import DocGraph.Proofs.Scan.Verdict

/-!
# Where a failure ends a scan

A scan without workers goes through the stretches of its course until it has been given up.
`Account` keeps all that is done on the way, and `Site.scan_eq` says that the result of the scan is
what comes of that. If the scan is given up at a certain failure, `scan_cut` says that it does what
the scan without limits does up to that failure, and nothing after it.

Two scans of the same course are compared stretch by stretch. Either both have done the same, and
there were too few failures so far, or one was given up and has done what the other one began with.
-/

set_option autoImplicit false

namespace DocGraph

open ScanStep

/-- How many failures give a scan up. -/
def AbortPolicy.StopsAt (policy : AbortPolicy) (k : Nat) : Prop :=
  policy.strict = true ∧ k = 1 ∨ policy.strict = false ∧ 0 < k ∧ policy.maxErrors = k

/-- A scan is not given up before there is a failure. -/
theorem AbortPolicy.StopsAt.positive {policy : AbortPolicy} {k : Nat} (h : policy.StopsAt k) :
    0 < k := by
  rcases h with ⟨-, rfl⟩ | ⟨-, positive, -⟩
  · exact Nat.one_pos
  · exact positive

/-- A scan returns exactly with fewer failures than give it up. -/
theorem AbortPolicy.StopsAt.ending_iff {policy : AbortPolicy} {k : Nat} (h : policy.StopsAt k)
    (failures : Nat) : policy.ending failures = .returned ↔ failures < k := by
  unfold ending
  rcases h with ⟨strict, rfl⟩ | ⟨lenient, positive, limit⟩
  · rw [strict]
    split <;> simp <;> omega
  · by_cases none_ : failures = 0
    · rw [if_pos none_]
      simp only [true_iff]
      omega
    · rw [if_neg none_, lenient, limit, if_neg Bool.false_ne_true]
      split <;> simp <;> omega

/-- What a scan has done so far. -/
structure Account where
  steps : List ScanStep := []
  state : ScanState := {}
  broken : Option GlobError := none

namespace Account

variable (policy : AbortPolicy) (look : Path → List ScanStep)

/-- Whether nothing more is done. -/
def halted (p : Account) : Bool :=
  p.state.abort.isSome || p.broken.isSome

/-- Go on with a stretch. -/
def advance (p : Account) (s : Stretch) : Account :=
  if p.halted then p
  else
    { steps := p.steps ++ s.steps look
      state := p.state.recordAll policy (events (s.steps look))
      broken := s.broken }

/-- Go through a course. -/
def through (course : List Stretch) : Account :=
  course.foldl (advance policy look) {}

/-- What comes of it. -/
def outcome (p : Account) : Except ScanError ScanResult :=
  match p.state.abort, p.broken with
  | none, some e => .error (.badGlob e)
  | _, _ => p.state.outcome

variable {policy : AbortPolicy} {look : Path → List ScanStep}

/-- When nothing more is done, a stretch changes nothing. -/
theorem advance_of_halted {p : Account} (h : p.halted = true) (s : Stretch) :
    p.advance policy look s = p :=
  if_pos h

/-- Otherwise its steps are done and its events are recorded. -/
theorem advance_of_going {p : Account} (h : p.halted = false) (s : Stretch) :
    p.advance policy look s =
      { steps := p.steps ++ s.steps look
        state := p.state.recordAll policy (events (s.steps look))
        broken := s.broken } :=
  if_neg (by simp [h])

/-- When nothing more is done, a course changes nothing. -/
theorem foldl_of_halted {p : Account} (h : p.halted = true) (course : List Stretch) :
    course.foldl (advance policy look) p = p := by
  induction course with
  | nil => rfl
  | cons s rest ih => rw [List.foldl_cons, advance_of_halted h, ih]

/-! ## As the scan along the walk -/

/-- Going on with a course is going on with its walk. -/
theorem foldl_outcome (p : Account) (going : p.halted = false) (course : List Stretch) :
    let after := course.foldl (advance policy look) p
    let walk := Walk.ofCourse course
    let state := p.state.performAll policy (fun path => events (look path)) walk.visits
    after.state = state ∧ (state.abort = none → after.broken = walk.broken) := by
  induction course generalizing p with
  | nil =>
    have whole : p.broken = none := by
      simpa using (Bool.or_eq_false_iff.mp going).2
    exact ⟨rfl, fun _ => whole⟩
  | cons s rest ih =>
    have goOn : p.state.abort = none := by
      simpa using (Bool.or_eq_false_iff.mp going).1
    have here : ∀ later, p.state.performAll policy (fun path => events (look path))
        (s.visit?.toList ++ later) = (p.state.recordAll policy (events (s.steps look))).performAll
          policy (fun path => events (look path)) later := by
      intro later
      rw [Stretch.events_steps]
      cases s.visit? with
      | none => rfl
      | some visit =>
        rw [Option.toList_some, List.singleton_append, ScanState.performAll, goOn,
          List.flatMap_singleton, ScanState.perform_eq]
        rfl
    rw [List.foldl_cons, advance_of_going going, Walk.ofCourse_cons]
    dsimp only
    cases stopped : s.broken with
    | some e =>
      have last : s.walk.andThen (Walk.ofCourse rest) = ⟨s.visit?.toList ++ [], some e⟩ := by
        simp [Walk.andThen, Stretch.walk, stopped]
      rw [foldl_of_halted (by simp [halted]), last, here, ScanState.performAll]
      exact ⟨rfl, fun _ => rfl⟩
    | none =>
      have next : s.walk.andThen (Walk.ofCourse rest) =
          ⟨s.visit?.toList ++ (Walk.ofCourse rest).visits, (Walk.ofCourse rest).broken⟩ := by
        simp [Walk.andThen, Stretch.walk, stopped]
      rw [next, here]
      by_cases given : (p.state.recordAll policy (events (s.steps look))).abort.isSome = true
      · rw [foldl_of_halted (by simp [halted, given])]
        have gone : ∀ later, (p.state.recordAll policy (events (s.steps look))).performAll policy
            (fun path => events (look path)) later =
              p.state.recordAll policy (events (s.steps look)) := by
          intro later
          cases later with
          | nil => rfl
          | cons visit later => rw [ScanState.performAll, if_pos given]
        rw [gone]
        exact ⟨rfl, fun impossible => absurd given (by simp [impossible])⟩
      · exact ih _ (by simp [halted, given])

/-- What comes of a course is what comes of the scan along its walk. -/
theorem outcome_through (course : List Stretch) :
    (through policy look course).outcome =
      (Walk.ofCourse course).scan policy fun path => events (look path) := by
  obtain ⟨state, broken⟩ := @foldl_outcome policy look {} rfl course
  unfold outcome Walk.scan through
  rw [state]
  dsimp only
  cases given : (({} : ScanState).performAll policy (fun path => events (look path))
      (Walk.ofCourse course).visits).abort with
  | some reason => rfl
  | none =>
    have same := broken given
    cases whole : (Walk.ofCourse course).broken with
    | none => simp only [same.trans whole]
    | some e => simp only [same.trans whole]

/-! ## Two scans of one course -/

/-- The state of a scan is what its events lead to. -/
def Noted (policy : AbortPolicy) (p : Account) : Prop :=
  p.state = ({} : ScanState).recordAll policy (events p.steps)

/-- A stretch keeps the state what the events lead to. -/
theorem Noted.advance {p : Account} (h : p.Noted policy) (s : Stretch) :
    (p.advance policy look s).Noted policy := by
  cases going : p.halted with
  | true => rwa [advance_of_halted going]
  | false =>
    rw [advance_of_going going, Noted, events_append, ScanState.recordAll_append, ← h]

/-- A scan has not been given up as long as it has fewer failures than give it up. -/
theorem Noted.abort_iff {p : Account} (h : p.Noted policy) {k : Nat} (stops : policy.StopsAt k) :
    p.state.abort = none ↔ failures p.steps < k := by
  rw [← stops.ending_iff, ← countP_events, ← ScanState.recordAll_ending,
    ScanState.of_abort_returned_iff, h]

/-- Without a limit a scan is not given up. -/
theorem Noted.abort_of_unlimited {p : Account} (h : p.Noted {}) : p.state.abort = none := by
  rw [h]
  exact ScanState.recordAll_abort _ (AbortPolicy.tolerates_default _)

/-- One scan has done what another one has, or what that began with, up to failure number `k`. -/
inductive Cut (k : Nat) (full cut : Account) : Prop where
  | same (steps : cut.steps = full.steps) (broken : cut.broken = full.broken)
      (fewer : failures full.steps < k)
  | stopped (before : List ScanStep) (path : Path) (failure : Failure) (counts : Bool)
      (rest : List ScanStep)
      (ends : cut.steps = before ++ [.note (.failed path failure counts)])
      (all : full.steps = cut.steps ++ rest) (enough : failures before + 1 = k)

variable {k : Nat} {full cut : Account}

/-- Both go on with the same stretch, in which nothing is done after a failure. -/
theorem Cut.advance (h : Cut k full cut) (stops : policy.StopsAt k) (fullNoted : full.Noted {})
    (cutNoted : cut.Noted policy) {s : Stretch} (last : FailsLast (s.steps look)) :
    Cut k (full.advance {} look s) (cut.advance policy look s) := by
  have tolerant := fullNoted.abort_of_unlimited
  rcases h with ⟨steps, broken, fewer⟩ | ⟨before, path, failure, counts, rest, ends, all, enough⟩
  · have goesOn : cut.state.abort = none := (cutNoted.abort_iff stops).mpr (steps ▸ fewer)
    have alike : cut.halted = full.halted := by
      rw [halted, halted, goesOn, tolerant, broken]
    cases going : full.halted with
    | true =>
      rw [advance_of_halted going, advance_of_halted (alike.trans going)]
      exact .same steps broken fewer
    | false =>
      rw [advance_of_going going, advance_of_going (alike.trans going), steps]
      rcases last.cases with nothing | ⟨front, path, failure, counts, split, nothing⟩
      · refine .same rfl rfl ?_
        rw [failures_append, nothing]
        exact fewer
      · by_cases reached : failures full.steps + 1 = k
        · refine .stopped (full.steps ++ front) path failure counts [] ?_ ?_ ?_
          · rw [split, List.append_assoc]
          · exact (List.append_nil _).symm
          · rw [failures_append, nothing]
            exact reached
        · refine .same rfl rfl ?_
          have one : failures [note (.failed path failure counts)] = 1 := rfl
          rw [split, failures_append, failures_append, nothing, one]
          omega
  · have given : cut.state.abort ≠ none := by
      intro goesOn
      have few := (cutNoted.abort_iff stops).mp goesOn
      have one : failures [note (.failed path failure counts)] = 1 := rfl
      rw [ends, failures_append, one] at few
      omega
    have isHalted : cut.halted = true := by
      rw [halted, Option.isSome_iff_ne_none.mpr given, Bool.true_or]
    rw [advance_of_halted isHalted]
    cases going : full.halted with
    | true =>
      rw [advance_of_halted going]
      exact .stopped before path failure counts rest ends all enough
    | false =>
      rw [advance_of_going going]
      refine .stopped before path failure counts (rest ++ s.steps look) ends ?_ enough
      rw [all, List.append_assoc]

/-- A course keeps the state what the events lead to. -/
theorem noted_foldl {p : Account} (h : p.Noted policy) (course : List Stretch) :
    (course.foldl (Account.advance policy look) p).Noted policy := by
  induction course generalizing p with
  | nil => exact h
  | cons s rest ih => exact ih (h.advance s)

/-- If one scan is cut off another, it still is after a course. -/
theorem Cut.foldl (h : Cut k full cut) (stops : policy.StopsAt k) (fullNoted : full.Noted {})
    (cutNoted : cut.Noted policy) (last : ∀ path, FailsLast (look path)) (course : List Stretch) :
    Cut k (course.foldl (Account.advance {} look) full)
      (course.foldl (Account.advance policy look) cut) := by
  induction course generalizing full cut with
  | nil => exact h
  | cons s rest ih =>
    exact ih (h.advance stops fullNoted cutNoted (s.failsLast_steps last)) (fullNoted.advance s)
      (cutNoted.advance s)

/-- What the same course comes to without limits and with a policy that stops at failure `k`. -/
theorem cut_through (stops : policy.StopsAt k) (last : ∀ path, FailsLast (look path))
    (course : List Stretch) : Cut k (through {} look course) (through policy look course) := by
  have begun : Cut k {} {} := .same rfl rfl stops.positive
  exact begun.foldl stops rfl rfl last course

/-- A scan that has not come to its limit returns what its events add up to, unless its walk was
broken off. -/
theorem Noted.outcome_of_going {p : Account} (h : p.Noted policy) (goesOn : p.state.abort = none) :
    p.outcome = match p.broken with
      | none => .ok (.ofEvents (events p.steps))
      | some e => .error (.badGlob e) := by
  have result : p.state.result = .ofEvents (events p.steps) := by
    rw [h, ScanState.recordAll_result]
  rw [outcome, goesOn]
  cases p.broken with
  | some e => rfl
  | none =>
    dsimp only
    rw [ScanState.outcome, goesOn, result]

/-- A scan that was given up has the reason that its last failure is, with what its events add up
to. -/
theorem Noted.outcome_of_stopped {p : Account} (h : p.Noted policy) (stops : policy.StopsAt k)
    {before : List ScanStep} {path : Path} {failure : Failure} {counts : Bool}
    (ends : p.steps = before ++ [.note (.failed path failure counts)])
    (enough : failures before + 1 = k) :
    ∃ reason, policy.decide? k path failure = some reason ∧
      p.outcome = .error (.aborted reason (.ofEvents (events p.steps))) := by
  have result : p.state.result = .ofEvents (events p.steps) := by
    rw [h, ScanState.recordAll_result]
  have one : failures [note (.failed path failure counts)] = 1 := rfl
  have given : p.state.abort ≠ none := by
    rw [Ne, h.abort_iff stops, ends, failures_append, one]
    omega
  -- Before its last failure the scan was not given up, so that failure gave the reason.
  have going : (({} : ScanState).recordAll policy (events before)).abort = none := by
    rw [← ScanState.of_abort_returned_iff, ScanState.recordAll_ending, stops.ending_iff,
      countP_events]
    omega
  have counted : (({} : ScanState).recordAll policy (events before)).result.failed + 1 = k := by
    rw [ScanState.recordAll_result, ← enough, ← countP_events]
    rfl
  have decided : p.state.abort = policy.decide? k path failure := by
    rw [h, ends, events_append, ScanState.recordAll_append]
    change (ScanState.record policy _ (.failed path failure counts)).abort = _
    rw [ScanState.record, going, counted]
    rfl
  obtain ⟨reason, because⟩ := Option.ne_none_iff_exists'.mp given
  refine ⟨reason, decided.symm.trans because, ?_⟩
  rw [outcome, because]
  dsimp only
  rw [ScanState.outcome, because, result]

/-- The state after a course is what its events lead to. -/
theorem noted_through (course : List Stretch) : (through policy look course).Noted policy := by
  have begun : ({} : Account).Noted policy := rfl
  exact noted_foldl begun course

/-- Without a limit a scan breaks off where the walk does. -/
theorem broken_through (course : List Stretch) :
    (through {} look course).broken = (Walk.ofCourse course).broken := by
  obtain ⟨state, broken⟩ := @foldl_outcome {} look {} rfl course
  exact broken (state ▸ (noted_through course).abort_of_unlimited)

end Account

namespace Site

/-- What a scan does before it walks. -/
def prepared (site : Site) (path : Path) (o : ScanOptions) : Except ScanError WalkPlan := do
  let root ← site.root path
  site.checkRoot root
  site.plan root o

/-- What a scan without workers does according to a plan. -/
def accountOf (site : Site) (registry : Registry) (o : ScanOptions) (plan : WalkPlan) : Account :=
  .through o.policy (site.stepsAt (o.criteria registry)) (plan.course site o.followLinks)

/-- The steps of a scan without workers; none if it fails before it walks. -/
def steps (site : Site) (registry : Registry) (path : Path) (o : ScanOptions) : List ScanStep :=
  match site.prepared path o with
  | .ok plan => (site.accountOf registry o plan).steps
  | .error _ => []

variable {site : Site} {registry : Registry} {path : Path} {o : ScanOptions} {plan : WalkPlan}

/-- A scan is prepared with a plan if it gets as far as that. -/
theorem prepared_eq_ok_iff : site.prepared path o = .ok plan ↔ site.Reaches path o plan := by
  constructor
  · intro h
    unfold prepared at h
    cases resolved : site.root path with
    | error e => simp [resolved, bind, Except.bind] at h
    | ok root =>
      cases there : site.checkRoot root with
      | error e => simp [resolved, there, bind, Except.bind] at h
      | ok present =>
        have planned : site.plan root o = .ok plan := by
          simpa [resolved, there, bind, Except.bind] using h
        obtain rfl := root_of_plan planned
        exact ⟨resolved, there, planned⟩
  · intro h
    unfold prepared
    rw [h.root]
    simp only [bind, Except.bind, h.there, h.planned]

/-- A scan without workers prepares a plan and follows it. -/
theorem scan_eq_planned (registry : Registry) (alone : o.concurrent = false) :
    site.scan registry path o =
      (site.prepared path o).bind fun plan => site.scanPlanned registry plan o := by
  unfold Site.scan prepared
  cases resolved : site.root path with
  | error e => rfl
  | ok root =>
    simp only [bind, Except.bind]
    cases there : site.checkRoot root with
    | error e => rfl
    | ok present =>
      dsimp only
      cases planned : site.plan root o with
      | error e => rfl
      | ok plan =>
        rw [alone]
        rfl

/-- What comes of a scan without workers is what comes of what it does. -/
theorem scanPlanned_eq (registry : Registry) (plan : WalkPlan) (alone : o.concurrent = false) :
    site.scanPlanned registry plan o = (site.accountOf registry o plan).outcome := by
  rw [accountOf, Account.outcome_through, scanPlanned, alone]
  rfl

/-- A scan without workers, in which a number of failures is the end of it, against the same scan
without limits. What that returns is what all it does adds up to, unless a glob cannot be read or
there is nothing to walk through. If it comes to fewer failures, both do and return the same. If
not, the one does what the other one does until there are as many failures, the last of which is
its last step and the reason that it gives, together with what its own steps add up to. -/
theorem scan_cut (site : Site) (registry : Registry) (path : Path) (o : ScanOptions) (k : Nat)
    (alone : o.concurrent = false) (stops : o.policy.StopsAt k) :
    (site.scan registry path o.unlimited =
        .ok (.ofEvents (events (site.steps registry path o.unlimited))) ∨
      (∃ e, site.scan registry path o.unlimited = .error e) ∧
        ∀ plan, site.Reaches path o plan → ¬plan.Readable) ∧
    (k ≤ failures (site.steps registry path o.unlimited) →
      ∃ before file failure counts rest reason,
        site.steps registry path o.unlimited =
          before ++ .note (.failed file failure counts) :: rest ∧
        failures before + 1 = k ∧
        site.steps registry path o = before ++ [.note (.failed file failure counts)] ∧
        o.policy.decide? k file failure = some reason ∧
        site.scan registry path o =
          .error (.aborted reason (.ofEvents (events (site.steps registry path o))))) ∧
    (failures (site.steps registry path o.unlimited) < k →
      site.steps registry path o = site.steps registry path o.unlimited ∧
      site.scan registry path o = site.scan registry path o.unlimited) := by
  have positive := stops.positive
  have same : site.prepared path o.unlimited = site.prepared path o := rfl
  rw [steps, steps, site.scan_eq_planned registry alone,
    site.scan_eq_planned (o := o.unlimited) registry rfl, same]
  cases result : site.prepared path o with
  | error e =>
    refine ⟨Or.inr ⟨⟨e, rfl⟩, fun plan reaches => ?_⟩, fun many => ?_, fun _ => ⟨rfl, rfl⟩⟩
    · rw [prepared_eq_ok_iff.mpr reaches] at result
      cases result
    · exact absurd many (by simp [failures]; omega)
  | ok plan =>
    simp only [Except.bind]
    rw [scanPlanned_eq registry plan alone, scanPlanned_eq (o := o.unlimited) registry plan rfl]
    have noted : (site.accountOf registry o plan).Noted o.policy := Account.noted_through _
    have notedFull : (site.accountOf registry o.unlimited plan).Noted {} := Account.noted_through _
    have cut : Account.Cut k (site.accountOf registry o.unlimited plan)
        (site.accountOf registry o plan) :=
      Account.cut_through stops (site.failsLast_stepsAt _) _
    have full := notedFull.outcome_of_going notedFull.abort_of_unlimited
    refine ⟨?_, fun many => ?_, fun few => ?_⟩
    · rw [full]
      cases broken : (site.accountOf registry o.unlimited plan).broken with
      | none => exact Or.inl rfl
      | some e =>
        refine Or.inr ⟨⟨_, rfl⟩, fun other reaches readable => ?_⟩
        obtain rfl := (prepared_eq_ok_iff.mp result).unique reaches
        have whole := @Account.broken_through (site.stepsAt (o.criteria registry))
          (other.course site o.followLinks)
        cases (whole.trans (readable.walk_broken site o.followLinks)).symm.trans broken
    · rcases cut with ⟨-, -, fewer⟩ | ⟨before, file, failure, counts, rest, ends, all, enough⟩
      · omega
      · obtain ⟨reason, because, given⟩ := noted.outcome_of_stopped stops ends enough
        refine ⟨before, file, failure, counts, rest, reason, ?_, enough, ends, because, given⟩
        rw [all, ends, List.append_assoc]
        rfl
    · rcases cut with ⟨same, broken, -⟩ | ⟨before, file, failure, counts, rest, ends, all, enough⟩
      · have goesOn := (noted.abort_iff stops).mpr (same ▸ few)
        rw [full, noted.outcome_of_going goesOn, same, broken]
        exact ⟨rfl, rfl⟩
      · have one : failures [note (.failed file failure counts)] = 1 := rfl
        rw [all, ends, failures_append, failures_append, one] at few
        omega

/-- In a directory with two files, of which the second one fails, one failure is the end. What was
kept of the first file is in the result. -/
theorem scan_cut_in_pair :
    { pairOptions with concurrent := false, maxErrors := 1 }.policy.StopsAt 1 ∧
      ∃ before file failure counts,
        pair.steps .standard ⟨1, ["src"]⟩
            { pairOptions with concurrent := false, maxErrors := 1 } =
          before ++ [.note (.failed file failure counts)] ∧
        failures before = 0 ∧
        pair.scan .standard ⟨1, ["src"]⟩ { pairOptions with concurrent := false, maxErrors := 1 } =
          .error (.aborted (.tooManyErrors 1)
            (.ofEvents (events before ++ [.failed file failure counts]))) := by
  have stops : { pairOptions with concurrent := false, maxErrors := 1 }.policy.StopsAt 1 :=
    Or.inr ⟨rfl, Nat.one_pos, rfl⟩
  have reaches : pair.Reaches ⟨1, ["src"]⟩
      { pairOptions with concurrent := false, maxErrors := 1 } pairPlan :=
    ⟨pair_reaches.root, pair_reaches.there, pair_reaches.planned⟩
  obtain ⟨returned | ⟨-, unreadable⟩, enough, -⟩ :=
    scan_cut pair .standard ⟨1, ["src"]⟩ { pairOptions with concurrent := false, maxErrors := 1 } 1
      rfl stops
  · obtain ⟨full, again, failed⟩ := scan_unlimited reaches pair_readable .standard
    have one := congrArg ScanResult.failed (Except.ok.inj (returned.symm.trans again))
    rw [failed] at one
    have counted := (countP_events _).symm.trans (one.trans pair_failures)
    obtain ⟨before, file, failure, counts, rest, reason, -, first, ends, because, given⟩ :=
      enough counted.ge
    cases because
    rw [ends, events_append] at given
    exact ⟨stops, before, file, failure, counts, ends, by omega, given⟩
  · exact absurd pair_readable (unreadable pairPlan reaches)

end Site

end DocGraph
