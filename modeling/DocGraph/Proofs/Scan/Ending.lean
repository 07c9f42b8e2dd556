import DocGraph.Proofs.Scan.Events

/-!
# How a scan ends

A scan returns, or a failure ends it: the first one if none is allowed, else the one with which
there are as many as the limit says. `AbortPolicy.ending` says which of these happens, given how
many failures a scan comes to that is never given up.

A scan that is given up does not come to the rest of its walk, and does not count the failures
there. That makes no difference to how it ends: it was given up because there were enough failures
by then, and more of them end it in the same way.
-/

set_option autoImplicit false

namespace DocGraph

/-- The entry on the list of errors that a failure makes. -/
def Failure.entry (failure : Failure) (path : Path) : CollectedError :=
  { file := path.toString, message := failure.message, cause := some failure.cause }

/-- The words for giving up at a failure are those of its entry. -/
theorem Abort.message_strict (path : Path) (failure : Failure) :
    (Abort.strict path failure).message = "strict mode: " ++ (failure.entry path).text := by
  have said : (Abort.strict path failure).message =
      "strict mode: " ++ path.toString ++ ": " ++ failure.message := rfl
  have told : (failure.entry path).text = path.toString ++ ": " ++ failure.message := rfl
  rw [said, told, String.append_assoc, String.append_assoc, String.append_assoc]

/-- How a scan can end. -/
inductive Ending where
  | returned
  /-- A failure ended it, and none is allowed. -/
  | strict
  /-- There were as many failures as the limit. -/
  | tooManyErrors (limit : Int)
  deriving DecidableEq, Repr

/-- How a scan ends that was given up for a reason or was not. -/
def Ending.of : Option Abort → Ending
  | none => .returned
  | some (.strict _ _) => .strict
  | some (.tooManyErrors limit) => .tooManyErrors limit

/-- What comes out of a scan shows an ending. A failure that ended a scan in which none is allowed
is on the list of errors. -/
inductive Ends : Except ScanError ScanResult → Ending → Prop where
  | returned (result : ScanResult) : Ends (.ok result) .returned
  | strict (path : Path) (failure : Failure) (result : ScanResult)
      (named : failure.entry path ∈ result.errors) :
      Ends (.error (.aborted (.strict path failure) result)) .strict
  | tooManyErrors (limit : Int) (result : ScanResult) :
      Ends (.error (.aborted (.tooManyErrors limit) result)) (.tooManyErrors limit)

namespace AbortPolicy

variable {policy : AbortPolicy}

/-- How a scan ends that would come to so many failures if it were never given up. -/
def ending (policy : AbortPolicy) (failures : Nat) : Ending :=
  if failures = 0 then .returned
  else if policy.strict then .strict
  else if policy.maxErrors ≠ 0 ∧ policy.maxErrors ≤ failures then .tooManyErrors policy.maxErrors
  else .returned

/-- Without failures every policy returns. -/
theorem ending_zero (policy : AbortPolicy) : policy.ending 0 = .returned :=
  if_pos rfl

/-- What one failure more decides, if those before it did not. -/
theorem decide_ending (policy : AbortPolicy) (count : Nat) (path : Path) (failure : Failure) :
    Ending.of (policy.decide? (count + 1) path failure) = policy.ending (count + 1) := by
  unfold decide? ending
  rw [if_neg (Nat.succ_ne_zero count)]
  by_cases strict : policy.strict = true
  · rw [if_pos strict, if_pos strict]
    rfl
  · rw [if_neg strict, if_neg strict]
    by_cases reached : policy.maxErrors ≠ 0 ∧ policy.maxErrors ≤ (count + 1 : Nat)
    · rw [if_pos reached, if_pos (by simpa using reached)]
      rfl
    · rw [if_neg reached, if_neg (by simpa using reached)]
      rfl

/-- If a scan is given up after some failures, it ends in the same way with more of them. -/
theorem ending_of_le {few many : Nat} (h : policy.ending few ≠ .returned) (le : few ≤ many) :
    policy.ending many = policy.ending few := by
  unfold ending at h ⊢
  by_cases none_ : few = 0
  · rw [if_pos none_] at h
    exact absurd rfl h
  · have some_ : many ≠ 0 := by omega
    rw [if_neg none_] at h
    rw [if_neg none_, if_neg some_]
    by_cases strict : policy.strict = true
    · rw [if_pos strict, if_pos strict]
    · rw [if_neg strict] at h
      rw [if_neg strict, if_neg strict]
      by_cases reached : policy.maxErrors ≠ 0 ∧ policy.maxErrors ≤ (few : Int)
      · have later : policy.maxErrors ≤ (many : Int) := reached.2.trans (Int.ofNat_le.mpr le)
        rw [if_pos reached, if_pos ⟨reached.1, later⟩]
      · rw [if_neg reached] at h
        exact absurd rfl h

end AbortPolicy

namespace ScanState

variable (policy : AbortPolicy)

/-- The first reason to give up is kept. -/
theorem record_abort_of_some {s : ScanState} {reason : Abort} (event : ScanEvent)
    (given : s.abort = some reason) : (s.record policy event).abort = some reason := by
  cases event with
  | scanned => exact given
  | kept file => exact given
  | failed path failure counts =>
    rw [record, given]
    rfl

/-- A scan ends by returning if it was not given up. -/
theorem of_abort_returned_iff {s : ScanState} : Ending.of s.abort = .returned ↔ s.abort = none := by
  cases s.abort with
  | none => simp [Ending.of]
  | some reason => cases reason <;> simp [Ending.of]

/-- Whether and why events end a scan depends on the number of failures among them alone. -/
theorem recordAll_ending (events : List ScanEvent) :
    Ending.of (({} : ScanState).recordAll policy events).abort =
      policy.ending (events.countP ScanEvent.isFailure) := by
  -- The last event comes last: whether it is counted depends on what those before it decided.
  induction events using List.reverseRecOn with
  | nil => exact policy.ending_zero.symm
  | append_singleton events event ih =>
    rw [recordAll_snoc, List.countP_append]
    cases event with
    | scanned => exact ih
    | kept file => exact ih
    | failed path failure counts =>
      have failed := congrArg ScanResult.failed (recordAll_result policy events)
      have one : [ScanEvent.failed path failure counts].countP ScanEvent.isFailure = 1 := rfl
      rw [one]
      cases given : (({} : ScanState).recordAll policy events).abort with
      | none =>
        rw [record, given, failed]
        exact policy.decide_ending _ path failure
      | some reason =>
        have kept := record_abort_of_some policy (.failed path failure counts) given
        rw [given] at ih
        rw [kept, ih]
        refine (AbortPolicy.ending_of_le ?_ (Nat.le_succ _)).symm
        rw [← ih]
        cases reason <;> simp [Ending.of]

/-- The failure that ended a scan in which none is allowed is on the list of errors. -/
theorem recordAll_named {events : List ScanEvent} {path : Path} {failure : Failure}
    (given : (({} : ScanState).recordAll policy events).abort = some (.strict path failure)) :
    failure.entry path ∈ (({} : ScanState).recordAll policy events).result.errors := by
  induction events using List.reverseRecOn with
  | nil => cases given
  | append_singleton events event ih =>
    rw [recordAll_snoc] at given ⊢
    cases event with
    | scanned => exact ih given
    | kept file => exact ih given
    | failed here why counts =>
      cases before : (({} : ScanState).recordAll policy events).abort with
      | some reason =>
        rw [record_abort_of_some policy _ before] at given
        exact List.mem_append_left _ (ih (before.trans given))
      | none =>
        rw [record, before] at given
        have decided : policy.decide? ((({} : ScanState).recordAll policy events).result.failed + 1)
            here why = some (.strict path failure) := given
        unfold AbortPolicy.decide? at decided
        split_ifs at decided
        · cases decided
          exact List.mem_append_right _ (List.mem_singleton_self _)
        · cases decided

/-- Events end a scan as the number of failures among them says. -/
theorem ends_of_recordAll (events : List ScanEvent) :
    Ends (({} : ScanState).recordAll policy events).outcome
      (policy.ending (events.countP ScanEvent.isFailure)) := by
  have ending := recordAll_ending policy events
  unfold outcome
  cases given : (({} : ScanState).recordAll policy events).abort with
  | none =>
    rw [← ending, given]
    exact .returned _
  | some reason =>
    rw [← ending, given]
    cases reason with
    | strict path failure => exact .strict path failure _ (recordAll_named policy given)
    | tooManyErrors limit => exact .tooManyErrors limit _

end ScanState

/-! ## Along a walk -/

/-- A walk up to some visit ends a scan as the whole walk does, if the scan was given up there or if
that visit is the last one. -/
theorem AbortPolicy.ending_of_visits {policy : AbortPolicy} {look : Path → List ScanEvent}
    {kept dropped : List Visit} {events : List ScanEvent}
    (same : events.Perm (kept.flatMap (Visit.events look)))
    (reason : dropped ≠ [] → (({} : ScanState).recordAll policy events).abort ≠ none) :
    policy.ending (((kept ++ dropped).flatMap (Visit.events look)).countP ScanEvent.isFailure) =
      policy.ending (events.countP ScanEvent.isFailure) := by
  rw [List.flatMap_append, List.countP_append, ← same.countP_eq]
  by_cases whole : dropped = []
  · rw [whole, List.flatMap_nil, List.countP_nil, Nat.add_zero]
  · refine ending_of_le (fun returned => reason whole ?_) (Nat.le_add_right _ _)
    rw [← ScanState.of_abort_returned_iff, ScanState.recordAll_ending, returned]

/-- A scan without workers takes in the events of its visits up to where it is given up. -/
theorem ScanState.performAll_cut (policy : AbortPolicy) (look : Path → List ScanEvent)
    (s : ScanState) (visits : List Visit) :
    ∃ kept dropped, visits = kept ++ dropped ∧
      s.performAll policy look visits = s.recordAll policy (kept.flatMap (Visit.events look)) ∧
      (dropped ≠ [] → (s.performAll policy look visits).abort ≠ none) := by
  induction visits generalizing s with
  | nil => exact ⟨[], [], rfl, rfl, fun impossible => absurd rfl impossible⟩
  | cons visit rest ih =>
    rw [performAll]
    by_cases given : s.abort.isSome = true
    · rw [if_pos given]
      exact ⟨[], visit :: rest, rfl, rfl, fun _ => Option.isSome_iff_ne_none.mp given⟩
    · rw [if_neg given, perform_eq]
      obtain ⟨kept, dropped, split, all, reason⟩ := ih (s.recordAll policy (visit.events look))
      refine ⟨visit :: kept, dropped, by rw [split, List.cons_append], ?_, reason⟩
      rw [all, List.flatMap_cons, recordAll_append]

/-- A scan without workers, along a walk that is not broken off, ends as the number of failures of
the walk says. -/
theorem Walk.ends_of_scan {walk : Walk} (whole : walk.broken = none) (policy : AbortPolicy)
    (look : Path → List ScanEvent) :
    Ends (walk.scan policy look) (policy.ending (walk.failures look)) := by
  obtain ⟨kept, dropped, split, all, reason⟩ :=
    ScanState.performAll_cut policy look {} walk.visits
  rw [all] at reason
  have same := AbortPolicy.ending_of_visits (List.Perm.refl _) reason
  rw [Walk.failures, Walk.events, split, same]
  have returned : walk.scan policy look =
      (({} : ScanState).recordAll policy (kept.flatMap (Visit.events look))).outcome := by
    unfold Walk.scan
    dsimp only
    rw [all, whole]
    cases (({} : ScanState).recordAll policy (kept.flatMap (Visit.events look))).abort <;> rfl
  rw [returned]
  exact ScanState.ends_of_recordAll policy _

end DocGraph
