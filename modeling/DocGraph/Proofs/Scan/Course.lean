import DocGraph.Proofs.Scan.Events

/-!
# What a scan does step by step

A walk says what a scan comes to, and a look at a file what it finds there. Neither says what the
file system is asked for on the way. The steps of a stretch are what it asks for, and then what is
done about its visit, where a candidate is looked at with further questions. After a failure, nothing
more is done in a stretch.
-/

set_option autoImplicit false

namespace DocGraph

namespace ScanStep

/-- Whether a step notes a failure. -/
def fails : ScanStep → Bool
  | .ask _ => false
  | .note event => event.isFailure

/-- How many failures steps note. -/
def failures (steps : List ScanStep) : Nat :=
  steps.countP fails

/-- The events of steps in a row. -/
@[simp]
theorem events_append (first second : List ScanStep) :
    events (first ++ second) = events first ++ events second :=
  List.filterMap_append

/-- Questions are no events. -/
@[simp]
theorem events_asks (queries : List Query) : events (queries.map ask) = [] := by
  simp [events, event?]

/-- A step that notes an event adds it. -/
@[simp]
theorem events_note (event : ScanEvent) (rest : List ScanStep) :
    events (note event :: rest) = event :: events rest :=
  rfl

/-- The failures of steps in a row. -/
@[simp]
theorem failures_append (first second : List ScanStep) :
    failures (first ++ second) = failures first + failures second :=
  List.countP_append

/-- Steps note as many failures as there are among their events. -/
theorem countP_events (steps : List ScanStep) :
    (events steps).countP ScanEvent.isFailure = failures steps := by
  induction steps with
  | nil => rfl
  | cons step rest ih =>
    cases step with
    | ask query => exact ih
    | note event =>
      rw [events_note, List.countP_cons, ih, failures, failures, List.countP_cons]
      rfl

/-- After a failure there are no more steps. -/
def FailsLast : List ScanStep → Prop
  | [] => True
  | step :: rest => (step.fails = true → rest = []) ∧ FailsLast rest

/-- Questions in front of steps make no difference to what comes last. -/
theorem failsLast_asks (queries : List Query) {rest : List ScanStep} (h : FailsLast rest) :
    FailsLast (queries.map ask ++ rest) := by
  induction queries with
  | nil => exact h
  | cons query queries ih => exact ⟨fun impossible => (by cases impossible), ih⟩

/-- Either nothing fails, or one failure does, which comes last. -/
theorem FailsLast.cases {steps : List ScanStep} (h : FailsLast steps) :
    failures steps = 0 ∨ ∃ before path failure counts,
      steps = before ++ [note (.failed path failure counts)] ∧ failures before = 0 := by
  induction steps with
  | nil => exact Or.inl rfl
  | cons step rest ih =>
    by_cases fails_ : step.fails = true
    · obtain rfl := h.1 fails_
      cases step with
      | ask query => cases fails_
      | note event =>
        cases event with
        | scanned => cases fails_
        | kept record => cases fails_
        | failed path failure counts => exact Or.inr ⟨[], path, failure, counts, rfl, rfl⟩
    · have passes : failures (step :: rest) = failures rest := List.countP_cons_of_neg fails_
      rcases ih h.2 with nothing | ⟨before, path, failure, counts, rfl, nothing⟩
      · exact Or.inl (passes.trans nothing)
      · refine Or.inr ⟨step :: before, path, failure, counts, rfl, ?_⟩
        exact (List.countP_cons_of_neg fails_).trans nothing

end ScanStep

/-! ## At one file -/

/-- What is done about a visit, given what is done about a candidate. -/
def Visit.steps (look : Path → List ScanStep) : Visit → List ScanStep
  | .listed _ => []
  | .candidate path => look path
  | .failed path failure => [.note (.failed path failure true)]

/-- When a scan looks at a file, a failure comes last. -/
theorem Site.failsLast_stepsAt (site : Site) (criteria : Site.Criteria) (path : Path) :
    ScanStep.FailsLast (site.stepsAt criteria path) := by
  unfold stepsAt
  cases site.status path with
  | error fault => simp [ScanStep.FailsLast, ScanStep.fails]
  | ok file =>
    dsimp only
    split
    · split <;> simp [ScanStep.FailsLast, ScanStep.fails, ScanEvent.isFailure]
    · simp [ScanStep.FailsLast, ScanStep.fails, ScanEvent.isFailure]

/-! ## Along a walk -/

namespace Stretch

/-- The steps of a stretch. -/
def steps (look : Path → List ScanStep) (s : Stretch) : List ScanStep :=
  s.asked.map .ask ++ s.visit?.toList.flatMap (Visit.steps look)

/-- A stretch asks for something itself, or when its candidate is looked at. -/
theorem ask_mem_steps {look : Path → List ScanStep} {s : Stretch} {query : Query}
    (h : .ask query ∈ s.steps look) :
    query ∈ s.asked ∨ ∃ path, s.visit? = some (.candidate path) ∧ .ask query ∈ look path := by
  rcases List.mem_append.mp h with own | visited
  · obtain ⟨other, asked, same⟩ := List.mem_map.mp own
    cases same
    exact Or.inl asked
  · obtain ⟨visit, here, asked⟩ := List.mem_flatMap.mp visited
    cases visit with
    | listed directory => cases asked
    | candidate path => exact Or.inr ⟨path, Option.mem_toList.mp here, asked⟩
    | failed path failure => cases List.mem_singleton.mp asked

/-- In a stretch nothing is done after a failure if that is so at each candidate. -/
theorem failsLast_steps {look : Path → List ScanStep}
    (last : ∀ path, ScanStep.FailsLast (look path)) (s : Stretch) :
    ScanStep.FailsLast (s.steps look) := by
  refine ScanStep.failsLast_asks s.asked ?_
  cases s.visit? with
  | none => trivial
  | some visit =>
    rw [Option.toList_some, List.flatMap_singleton]
    cases visit with
    | listed directory => trivial
    | candidate path => exact last path
    | failed path failure => exact ⟨fun _ => rfl, trivial⟩

/-- The events of a stretch are those of its visit. -/
theorem events_steps {look : Path → List ScanStep} (s : Stretch) :
    ScanStep.events (s.steps look) =
      s.visit?.toList.flatMap (Visit.events fun path => ScanStep.events (look path)) := by
  rw [steps, ScanStep.events_append, ScanStep.events_asks, List.nil_append]
  cases s.visit? with
  | none => rfl
  | some visit =>
    rw [Option.toList_some, List.flatMap_singleton, List.flatMap_singleton]
    cases visit <;> rfl

end Stretch

end DocGraph
