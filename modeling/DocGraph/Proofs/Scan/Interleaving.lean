import DocGraph.Proofs.Scan.Events

/-!
# Interleavings of a scan with workers

A run of a scan with workers is any sequence of turns, each by whoever can go on. `Pool.Runs`
follows one and notes the candidates that workers take off the queue on the way.

What holds between any two turns is `Pool.Accounted`. The candidates taken, those on the queue and
those still ahead of the walker are the candidates of the walk, in this order. The events written
down and those still to come are the events of the walk, in some order. On the queue every
candidate is in front of every mark to leave; each worker's mark is still to be put on the queue,
is on it or has been taken; and once one has been taken, no candidate is left there. So when the
walker and all workers have ended, nothing is left: each candidate was taken once, and what was
written down are the events of the walk. Nor can a run get stuck before that.

All of this is for a policy that tolerates the failures of the walk.
-/

set_option autoImplicit false

namespace DocGraph

/-- The candidate that a task is about, if it is about one. -/
def Task.path? : Task → Option Path
  | .look path => some path
  | .leave => none

/-- The visits that are ahead of the walker. -/
def Walker.ahead : Walker → List Visit
  | .walking rest => rest.visits
  | .doing visit rest => visit :: rest.visits
  | .closing _ _ => []

/-- How many workers the walker still has to tell to leave, of a number of them. -/
def Walker.unmarked (workers : Nat) : Walker → Nat
  | .walking _ => workers
  | .doing _ _ => workers
  | .closing left _ => left

/-- The error that breaks off the walk of the walker, if any. -/
def Walker.broken : Walker → Option GlobError
  | .walking rest => rest.broken
  | .doing _ rest => rest.broken
  | .closing _ broken => broken

/-- The event that the walker is about to write down, if anything. -/
def Walker.about? : Walker → Option ScanEvent
  | .doing (.failed path failure) _ => some (.failed path failure true)
  | _ => none

/-- The events that a worker is about to write down. -/
def Worker.events : Worker → List ScanEvent
  | .recording events => events
  | _ => []

namespace Pool

/-- The candidate that a worker takes off the queue in a turn, if one does. -/
def takes? (pool : Pool) : Turn → Option Path
  | .walker => none
  | .worker index =>
    match pool.workers[index]?, pool.queue with
    | some .waiting, .look path :: _ => some path
    | _, _ => none

/-- Turns, each by somebody who can go on, and the candidates that workers take on the way. -/
inductive Runs (policy : AbortPolicy) (look : Path → List ScanEvent) :
    Pool → List Path → Pool → Prop where
  | start (pool : Pool) : Runs policy look pool [] pool
  | step {first middle last : Pool} {taken : List Path} (turn : Turn)
      (before : Runs policy look first taken middle)
      (goes : middle.turn policy look turn = some last) :
      Runs policy look first (taken ++ (middle.takes? turn).toList) last

/-- Whether the walker and all workers have ended. -/
def Ended (pool : Pool) : Prop :=
  (∃ broken, pool.walker = .closing 0 broken) ∧ ∀ w ∈ pool.workers, w = .gone

/-- The candidates on the queue. -/
def queued (pool : Pool) : List Path :=
  pool.queue.filterMap Task.path?

/-- How many marks to leave are on the queue. -/
def marks (pool : Pool) : Nat :=
  pool.queue.count .leave

/-- How many workers are gone. -/
def departed (pool : Pool) : Nat :=
  pool.workers.count .gone

/-- The events that are still to come: those in the hands of workers, those of the candidates on
the queue and those ahead of the walker. -/
def pending (look : Path → List ScanEvent) (pool : Pool) : List ScanEvent :=
  pool.workers.flatMap Worker.events ++
    (pool.queued.flatMap look ++ pool.walker.ahead.flatMap (Visit.events look))

/-- What holds between two turns of a scan along a walk, with a number of workers, once workers
have taken the given candidates. -/
structure Accounted (policy : AbortPolicy) (look : Path → List ScanEvent) (walk : Walk)
    (workers : Nat) (taken : List Path) (pool : Pool) : Prop where
  size : pool.workers.length = workers
  whole : pool.walker.broken = none
  order : taken ++ (pool.queued ++ pool.walker.ahead.filterMap Visit.candidate?) = walk.candidates
  written : ∃ events, pool.state = ({} : ScanState).recordAll policy events ∧
    (events ++ pool.pending look).Perm (walk.events look)
  fifo : pool.queue = pool.queued.map .look ++ List.replicate pool.marks .leave
  marked : pool.marks + pool.departed + pool.walker.unmarked workers = workers
  emptied : pool.departed ≠ 0 → pool.queued = []

variable {policy : AbortPolicy} {look : Path → List ScanEvent} {walk : Walk} {workers : Nat}
  {taken : List Path} {pool after : Pool}

/-! ## What a turn writes down -/

/-- The event that somebody is about to write down, if anything. -/
def about? (pool : Pool) : Turn → Option ScanEvent
  | .walker => pool.walker.about?
  | .worker index => pool.workers[index]?.bind fun worker => worker.events.head?

/-- A turn writes down what was about to be written down, and nothing else. -/
theorem state_of_turn {turn : Turn} (goes : pool.turn policy look turn = some after) :
    after.state = pool.state.recordAll policy (pool.about? turn).toList := by
  cases turn with
  | walker =>
    change after.state = pool.state.recordAll policy pool.walker.about?.toList
    cases walkerTurn_eq_some_iff.mp goes with
    | giveUp walking | close walking | visit walking =>
      rw [walking]
      rfl
    | list doing | fail doing | offer doing =>
      rw [doing]
      rfl
    | tell closing =>
      rw [closing]
      rfl
  | worker index =>
    unfold about?
    dsimp only
    cases workerTurn_eq_some_iff.mp goes with
    | take free | leave free =>
      rw [free]
      rfl
    | finish busy | write busy =>
      rw [busy]
      rfl

/-- A turn of the walker leaves the workers as they are. -/
theorem workers_of_walkerTurn (goes : pool.walkerTurn policy = some after) :
    after.workers = pool.workers := by
  cases walkerTurn_eq_some_iff.mp goes <;> rfl

/-- A turn of a worker leaves the walker and the other workers as they are. -/
theorem others_of_workerTurn {index : Nat} (goes : pool.workerTurn policy look index = some after) :
    after.walker = pool.walker ∧ ∃ worker, after.workers = pool.workers.set index worker := by
  cases workerTurn_eq_some_iff.mp goes <;> exact ⟨rfl, _, rfl⟩

/-- A turn has no say in what anybody else is about to write down. -/
theorem about_of_turn {turn other : Turn} (goes : pool.turn policy look turn = some after)
    (differ : other ≠ turn) : after.about? other = pool.about? other := by
  cases turn with
  | walker =>
    have workers : after.workers = pool.workers := workers_of_walkerTurn goes
    cases other with
    | walker => exact absurd rfl differ
    | worker index =>
      unfold about?
      dsimp only
      rw [workers]
  | worker index =>
    obtain ⟨walker, worker, workers⟩ := others_of_workerTurn goes
    cases other with
    | walker =>
      unfold about?
      dsimp only
      rw [walker]
    | worker other =>
      have elsewhere : index ≠ other := fun same => differ (by rw [same])
      unfold about?
      dsimp only
      rw [workers, List.getElem?_set_ne elsewhere]

/-! ## One worker among others -/

/-- A worker that is about to do something else exchanges the events in its hands. -/
theorem events_set {all : List Worker} {index : Nat} {old : Worker} (new : Worker)
    (h : all[index]? = some old) :
    (old.events ++ (all.set index new).flatMap Worker.events).Perm
      (new.events ++ all.flatMap Worker.events) := by
  induction all generalizing index with
  | nil => cases h
  | cons w rest ih =>
    cases index with
    | zero =>
      obtain rfl : w = old := by simpa using h
      rw [List.set_cons_zero, List.flatMap_cons, List.flatMap_cons]
      exact List.perm_append_comm_assoc _ _ _
    | succ index =>
      have inner := ih (by simpa using h)
      rw [List.set_cons_succ, List.flatMap_cons, List.flatMap_cons]
      calc (old.events ++ (w.events ++ (rest.set index new).flatMap Worker.events)).Perm
            (w.events ++ (old.events ++ (rest.set index new).flatMap Worker.events)) :=
          List.perm_append_comm_assoc _ _ _
        List.Perm _ (w.events ++ (new.events ++ rest.flatMap Worker.events)) :=
          inner.append_left _
        List.Perm _ (new.events ++ (w.events ++ rest.flatMap Worker.events)) :=
          List.perm_append_comm_assoc _ _ _

/-- A worker that is not gone and stays so leaves the number of those that are. -/
theorem departed_set {all : List Worker} {index : Nat} {old new : Worker}
    (h : all[index]? = some old) (here : old ≠ .gone) (stays : new ≠ .gone) :
    (all.set index new).count .gone = all.count .gone := by
  obtain ⟨inside, rfl⟩ := List.getElem?_eq_some_iff.mp h
  rw [List.count_set inside]
  simp [here, stays]

/-- A worker that goes is one more that is gone. -/
theorem departed_set_gone {all : List Worker} {index : Nat} {old : Worker}
    (h : all[index]? = some old) (here : old ≠ .gone) :
    (all.set index .gone).count .gone = all.count .gone + 1 := by
  obtain ⟨inside, rfl⟩ := List.getElem?_eq_some_iff.mp h
  rw [List.count_set inside]
  simp [here]

/-- What is to come once a worker has taken a task off the queue. -/
theorem pending_assign (look : Path → List ScanEvent) (pool : Pool) (queue : List Task)
    (index : Nat) (worker : Worker) :
    ({ pool with queue }.assign index worker).pending look =
      (pool.workers.set index worker).flatMap Worker.events ++
        ((queue.filterMap Task.path?).flatMap look ++
          pool.walker.ahead.flatMap (Visit.events look)) := rfl

/-! ## Nothing is lost between two turns -/

/-- At the start all candidates and all events are ahead of the walker. -/
theorem accounted_start (whole : walk.broken = none) (workers : Nat) :
    Accounted policy look walk workers [] (start walk workers) := by
  have idle : (List.replicate workers Worker.waiting).flatMap Worker.events = [] := by
    rw [List.flatMap_eq_nil_iff]
    intro w member
    rw [List.eq_of_mem_replicate member]
    rfl
  have present : (List.replicate workers Worker.waiting).count .gone = 0 := by
    rw [List.count_eq_zero]
    intro member
    cases List.eq_of_mem_replicate member
  refine ⟨List.length_replicate, whole, rfl, ⟨[], rfl, ?_⟩, rfl, ?_, ?_⟩
  · rw [pending, start, idle]
    exact List.Perm.refl _
  · change 0 + (List.replicate workers Worker.waiting).count .gone + workers = workers
    omega
  · exact fun gone => absurd present gone

/-- The failures that were written down are failures of the walk, so a policy that tolerates those
has not given the scan up. -/
theorem Accounted.not_aborted (h : Accounted policy look walk workers taken pool)
    (tolerated : policy.Tolerates (walk.failures look)) : pool.state.abort = none := by
  obtain ⟨events, same, complete⟩ := h.written
  have fewer : events.countP ScanEvent.isFailure ≤ walk.failures look := by
    have total := complete.countP_eq ScanEvent.isFailure
    rw [List.countP_append] at total
    rw [Walk.failures]
    omega
  rw [same]
  exact ScanState.recordAll_abort policy (tolerated.mono fewer)

/-- What the walker puts at the end of its queue is a candidate, as long as it has not told a
worker to leave. -/
theorem Accounted.unmarked_queue (h : Accounted policy look walk workers taken pool)
    (walking : pool.walker.unmarked workers = workers) :
    pool.marks = 0 ∧ pool.departed = 0 := by
  have total := h.marked
  omega

/-- A failure that the walker writes down is no longer ahead of it. -/
theorem Accounted.failed (h : Accounted policy look walk workers taken pool) {path : Path}
    {failure : Failure} {rest : Walk} (doing : pool.walker = .doing (.failed path failure) rest) :
    Accounted policy look walk workers taken
      ((pool.note policy (.failed path failure true)).proceed (.walking rest)) := by
  obtain ⟨size, whole, order, ⟨events, state, complete⟩, fifo, marked, emptied⟩ := h
  rw [doing] at whole order marked
  rw [pending, doing] at complete
  refine ⟨size, whole, order, ⟨events ++ [.failed path failure true], ?_, ?_⟩, fifo, marked,
    emptied⟩
  · rw [ScanState.recordAll_snoc, ← state]
    rfl
  · refine List.Perm.trans ?_ complete
    rw [List.perm_iff_count]
    intro e
    change List.count e ((events ++ [ScanEvent.failed path failure true]) ++
      (pool.workers.flatMap Worker.events ++ (pool.queued.flatMap look ++
        rest.visits.flatMap (Visit.events look)))) = _
    simp only [Walker.ahead, List.flatMap_cons, Visit.events, List.count_append]
    omega

/-- A candidate that the walker puts on the queue moves from what is ahead to what is queued. -/
theorem Accounted.offered (h : Accounted policy look walk workers taken pool) {path : Path}
    {rest : Walk} (doing : pool.walker = .doing (.candidate path) rest) :
    Accounted policy look walk workers taken
      ({ pool with queue := pool.queue ++ [Task.look path] }.proceed (.walking rest)) := by
  -- No mark is on the queue yet that the candidate could come to stand behind.
  obtain ⟨noMarks, noneGone⟩ := h.unmarked_queue (by rw [doing]; rfl)
  obtain ⟨size, whole, order, ⟨events, state, complete⟩, fifo, marked, emptied⟩ := h
  rw [doing] at whole order marked
  rw [pending, doing] at complete
  have queued : (pool.queue ++ [Task.look path]).filterMap Task.path? = pool.queued ++ [path] := by
    rw [List.filterMap_append]
    rfl
  have marks : (pool.queue ++ [Task.look path]).count .leave = pool.marks := by
    rw [List.count_append]
    rfl
  refine ⟨size, whole, ?_, ⟨events, state, ?_⟩, ?_, ?_, fun gone => absurd noneGone gone⟩
  · change taken ++ ((pool.queue ++ [Task.look path]).filterMap Task.path? ++
      rest.visits.filterMap Visit.candidate?) = _
    rw [queued, List.append_assoc]
    exact order
  · refine List.Perm.trans (List.Perm.of_eq ?_) complete
    change events ++ (pool.workers.flatMap Worker.events ++
      (((pool.queue ++ [Task.look path]).filterMap Task.path?).flatMap look ++
        rest.visits.flatMap (Visit.events look))) = _
    rw [queued, List.flatMap_append, List.flatMap_singleton, List.append_assoc]
    rfl
  · change pool.queue ++ [Task.look path] =
      ((pool.queue ++ [Task.look path]).filterMap Task.path?).map .look ++
        List.replicate ((pool.queue ++ [Task.look path]).count .leave) .leave
    rw [queued, marks, noMarks, List.map_append, List.replicate_zero, List.append_nil]
    rw [noMarks, List.replicate_zero, List.append_nil] at fifo
    rw [fifo]
    rfl
  · change (pool.queue ++ [Task.look path]).count .leave + pool.departed + workers = workers
    rw [marks]
    exact marked

/-- A mark that the walker puts on the queue stands behind all candidates. -/
theorem Accounted.told (h : Accounted policy look walk workers taken pool) {left : Nat}
    {broken : Option GlobError} (closing : pool.walker = .closing (left + 1) broken) :
    Accounted policy look walk workers taken
      ({ pool with queue := pool.queue ++ [Task.leave] }.proceed (.closing left broken)) := by
  obtain ⟨size, whole, order, ⟨events, state, complete⟩, fifo, marked, emptied⟩ := h
  rw [closing] at whole order marked
  rw [pending, closing] at complete
  have queued : (pool.queue ++ [Task.leave]).filterMap Task.path? = pool.queued := by
    rw [List.filterMap_append]
    exact List.append_nil _
  have marks : (pool.queue ++ [Task.leave]).count .leave = pool.marks + 1 := by
    rw [List.count_append]
    rfl
  refine ⟨size, whole, ?_, ⟨events, state, ?_⟩, ?_, ?_, ?_⟩
  · change taken ++ ((pool.queue ++ [Task.leave]).filterMap Task.path? ++ []) = _
    rw [queued]
    exact order
  · change (events ++ (pool.workers.flatMap Worker.events ++
      (((pool.queue ++ [Task.leave]).filterMap Task.path?).flatMap look ++ []))).Perm _
    rw [queued]
    exact complete
  · change pool.queue ++ [Task.leave] =
      ((pool.queue ++ [Task.leave]).filterMap Task.path?).map .look ++
        List.replicate ((pool.queue ++ [Task.leave]).count .leave) .leave
    rw [queued, marks, List.replicate_succ', ← List.append_assoc, ← fifo]
  · change (pool.queue ++ [Task.leave]).count .leave + pool.departed + left = workers
    change pool.marks + pool.departed + (left + 1) = workers at marked
    rw [marks]
    omega
  · intro gone
    change (pool.queue ++ [Task.leave]).filterMap Task.path? = []
    rw [queued]
    exact emptied gone

/-- A turn of the walker loses nothing, unless it gives up. -/
theorem Accounted.walkerTurn (h : Accounted policy look walk workers taken pool)
    (goesOn : pool.state.abort = none ∨ ∀ rest, pool.walker ≠ .walking rest)
    (goes : pool.walkerTurn policy = some after) :
    Accounted policy look walk workers taken after := by
  cases walkerTurn_eq_some_iff.mp goes with
  | @giveUp rest walking given => exact absurd (goesOn.resolve_right fun never => never rest walking) given
  | @close rest walking _ ended =>
    obtain ⟨size, whole, order, ⟨events, state, complete⟩, fifo, marked, emptied⟩ := h
    have nothing : (Walker.walking rest).ahead = [] := ended
    rw [walking] at whole order marked
    rw [pending, walking] at complete
    rw [nothing] at order complete
    rw [← size] at marked
    exact ⟨size, whole, order, ⟨events, state, complete⟩, fifo, by rw [← size]; exact marked,
      emptied⟩
  | @visit rest visit others walking _ more =>
    obtain ⟨size, whole, order, ⟨events, state, complete⟩, fifo, marked, emptied⟩ := h
    have same : (Walker.walking rest).ahead = visit :: others := more
    rw [walking] at whole order marked
    rw [pending, walking] at complete
    rw [same] at order complete
    exact ⟨size, whole, order, ⟨events, state, complete⟩, fifo, marked, emptied⟩
  | list doing =>
    obtain ⟨size, whole, order, ⟨events, state, complete⟩, fifo, marked, emptied⟩ := h
    rw [doing] at whole order marked
    rw [pending, doing] at complete
    exact ⟨size, whole, order, ⟨events, state, complete⟩, fifo, marked, emptied⟩
  | fail doing => exact h.failed doing
  | offer doing => exact h.offered doing
  | tell closing => exact h.told closing

/-- A worker that takes a candidate has its events in hand. -/
theorem Accounted.took (h : Accounted policy look walk workers taken pool) {index : Nat}
    {path : Path} {rest : List Task} (free : pool.workers[index]? = some .waiting)
    (front : pool.queue = .look path :: rest) :
    Accounted policy look walk workers (taken ++ [path])
      ({ pool with queue := rest }.assign index (.recording (look path))) := by
  obtain ⟨size, whole, order, ⟨events, state, complete⟩, fifo, marked, emptied⟩ := h
  have queued : pool.queued = path :: rest.filterMap Task.path? := by
    rw [Pool.queued, front]
    rfl
  have marks : rest.count .leave = pool.marks := by
    rw [Pool.marks, front, List.count_cons_of_ne (by simp)]
  have stays : Worker.recording (look path) ≠ .gone := by simp
  have gone := departed_set free (by simp) stays
  refine ⟨by simpa [assign] using size, whole, ?_, ⟨events, state, ?_⟩, ?_, ?_, ?_⟩
  · change taken ++ [path] ++ (rest.filterMap Task.path? ++
      pool.walker.ahead.filterMap Visit.candidate?) = _
    rw [queued] at order
    simpa using order
  · have exchanged := events_set (.recording (look path)) free
    refine List.Perm.trans ?_ complete
    rw [List.perm_iff_count]
    intro e
    have here := exchanged.count_eq e
    rw [pending_assign, pending, queued]
    simp only [Worker.events, List.count_append, List.flatMap_cons, List.count_nil] at here ⊢
    omega
  · change rest = (rest.filterMap Task.path?).map .look ++
      List.replicate (rest.count .leave) .leave
    rw [front, queued, ← marks, List.map_cons, List.cons_append] at fifo
    exact (List.cons.inj fifo).2
  · change rest.count .leave + (pool.workers.set index (.recording (look path))).count .gone +
      pool.walker.unmarked workers = workers
    rw [marks, gone]
    exact marked
  · intro some_
    change (pool.workers.set index (.recording (look path))).count .gone ≠ 0 at some_
    rw [gone] at some_
    have impossible := emptied some_
    rw [queued] at impossible
    cases impossible

/-- A worker that takes a mark goes, and leaves no candidate on the queue. -/
theorem Accounted.left (h : Accounted policy look walk workers taken pool) {index : Nat}
    {rest : List Task} (free : pool.workers[index]? = some .waiting)
    (front : pool.queue = .leave :: rest) :
    Accounted policy look walk workers taken
      ({ pool with queue := rest }.assign index .gone) := by
  obtain ⟨size, whole, order, ⟨events, state, complete⟩, fifo, marked, emptied⟩ := h
  have marks : pool.marks = rest.count .leave + 1 := by
    rw [Pool.marks, front, List.count_cons_self]
  -- A queue with a mark in front has nothing but marks.
  have noCandidates : pool.queued = [] := by
    cases all : pool.queued with
    | nil => rfl
    | cons path others =>
      rw [front, all] at fifo
      cases fifo
  have queued : rest.filterMap Task.path? = [] := by
    rw [Pool.queued, front] at noCandidates
    exact noCandidates
  have gone := departed_set_gone free (by simp)
  refine ⟨by simpa [assign] using size, whole, ?_, ⟨events, state, ?_⟩, ?_, ?_, fun _ => queued⟩
  · change taken ++ (rest.filterMap Task.path? ++
      pool.walker.ahead.filterMap Visit.candidate?) = _
    rw [queued]
    rw [noCandidates] at order
    exact order
  · have exchanged := events_set .gone free
    refine List.Perm.trans (List.Perm.append_left events ?_) complete
    rw [pending_assign, pending, queued, noCandidates]
    exact List.Perm.append_right _ exchanged
  · change rest = (rest.filterMap Task.path?).map .look ++
      List.replicate (rest.count .leave) .leave
    rw [front, noCandidates, marks, List.replicate_succ] at fifo
    rw [queued]
    exact (List.cons.inj fifo).2
  · change rest.count .leave + (pool.workers.set index .gone).count .gone +
      pool.walker.unmarked workers = workers
    rw [gone]
    rw [marks, departed] at marked
    omega

/-- A worker that goes on with what is in its hands exchanges it for what it writes down. -/
theorem Accounted.wrote (h : Accounted policy look walk workers taken pool) {index : Nat}
    {events : List ScanEvent} (busy : pool.workers[index]? = some (.recording events))
    {new : Worker} (stays : new ≠ .gone) {state : ScanState} {written : List ScanEvent}
    (same : state = pool.state.recordAll policy written) (split : events = written ++ new.events) :
    Accounted policy look walk workers taken ({ pool with state }.assign index new) := by
  obtain ⟨size, whole, order, ⟨before, recorded, complete⟩, fifo, marked, emptied⟩ := h
  have gone := departed_set busy (by simp) stays
  refine ⟨by simpa [assign] using size, whole, order, ⟨before ++ written, ?_, ?_⟩, fifo, ?_, ?_⟩
  · rw [ScanState.recordAll_append, ← recorded]
    exact same
  -- What the worker no longer has in its hands is written down.
  · have exchanged := events_set new busy
    refine List.Perm.trans ?_ complete
    rw [List.perm_iff_count]
    intro e
    have here := exchanged.count_eq e
    have now : ({ pool with state }.assign index new).pending look =
        (pool.workers.set index new).flatMap Worker.events ++
          (pool.queued.flatMap look ++ pool.walker.ahead.flatMap (Visit.events look)) := rfl
    rw [now, pending]
    simp only [Worker.events, split, List.count_append] at here ⊢
    omega
  · change pool.marks + (pool.workers.set index new).count .gone +
      pool.walker.unmarked workers = workers
    rw [gone]
    exact marked
  · intro some_
    change (pool.workers.set index new).count .gone ≠ 0 at some_
    rw [gone] at some_
    exact emptied some_

/-- A turn of a worker loses nothing. -/
theorem Accounted.workerTurn (h : Accounted policy look walk workers taken pool) {index : Nat}
    (goes : pool.workerTurn policy look index = some after) :
    Accounted policy look walk workers (taken ++ (pool.takes? (.worker index)).toList) after := by
  cases workerTurn_eq_some_iff.mp goes with
  | @take path rest free front =>
    have takes : pool.takes? (.worker index) = some path := by rw [takes?, free, front]
    rw [takes]
    exact h.took free front
  | leave free front =>
    have takes : pool.takes? (.worker index) = none := by rw [takes?, free, front]
    rw [takes, Option.toList_none, List.append_nil]
    exact h.left free front
  | finish busy =>
    have takes : pool.takes? (.worker index) = none := by rw [takes?, busy]
    rw [takes, Option.toList_none, List.append_nil]
    have stays : Worker.waiting ≠ .gone := by simp
    have nothing : pool.state = pool.state.recordAll policy [] := rfl
    exact h.wrote busy stays nothing rfl
  | @write event rest busy =>
    have takes : pool.takes? (.worker index) = none := by rw [takes?, busy]
    rw [takes, Option.toList_none, List.append_nil]
    have stays : Worker.recording rest ≠ .gone := by simp
    have one : pool.state.record policy event = pool.state.recordAll policy [event] := rfl
    exact h.wrote busy stays one rfl

/-- A turn of anybody loses nothing. -/
theorem Accounted.turn (h : Accounted policy look walk workers taken pool)
    (tolerated : policy.Tolerates (walk.failures look)) {turn : Turn}
    (goes : pool.turn policy look turn = some after) :
    Accounted policy look walk workers (taken ++ (pool.takes? turn).toList) after := by
  cases turn with
  | walker =>
    rw [takes?, Option.toList_none, List.append_nil]
    exact h.walkerTurn (Or.inl (h.not_aborted tolerated)) goes
  | worker index => exact h.workerTurn goes

/-- However the turns of a scan follow each other, nothing is lost. -/
theorem accounted_of_runs (whole : walk.broken = none)
    (tolerated : policy.Tolerates (walk.failures look))
    (runs : Runs policy look (start walk workers) taken pool) :
    Accounted policy look walk workers taken pool := by
  generalize first : start walk workers = origin at runs
  induction runs with
  | start => exact first ▸ accounted_start whole workers
  | step turn before goes ih => exact ih.turn tolerated goes

/-! ## The end -/

/-- All workers are gone if as many are gone as there are. -/
theorem departed_eq_length_iff :
    pool.departed = pool.workers.length ↔ ∀ w ∈ pool.workers, w = .gone := by
  rw [departed, List.count_eq_length]
  exact ⟨fun h w member => (h w member).symm, fun h w member => (h w member).symm⟩

/-- Once the walker and all workers have ended nothing is left to come. -/
theorem Accounted.nothing_left (h : Accounted policy look walk workers taken pool)
    (some_ : 0 < workers) (ended : pool.Ended) :
    pool.queued = [] ∧ pool.pending look = [] ∧ pool.walker.ahead = [] := by
  obtain ⟨⟨broken, closed⟩, gone⟩ := ended
  have all := departed_eq_length_iff.mpr gone
  have empty := h.emptied (by rw [all, h.size]; omega)
  have idle : pool.workers.flatMap Worker.events = [] := by
    rw [List.flatMap_eq_nil_iff]
    intro w member
    rw [gone w member]
    rfl
  have over_ : pool.walker.ahead = [] := by rw [closed]; rfl
  exact ⟨empty, by rw [pending, empty, idle, over_]; rfl, over_⟩

/-- At the end of a scan the workers have taken the candidates of the walk, each once and in
order. -/
theorem Accounted.taken_eq (h : Accounted policy look walk workers taken pool)
    (some_ : 0 < workers) (ended : pool.Ended) : taken = walk.candidates := by
  obtain ⟨empty, -, over_⟩ := h.nothing_left some_ ended
  have order := h.order
  rw [empty, over_, List.filterMap_nil, List.append_nil, List.append_nil] at order
  exact order

/-- At the end of a scan what was found is what the events of the walk add up to, apart from the
order. -/
theorem Accounted.result_alike (h : Accounted policy look walk workers taken pool)
    (some_ : 0 < workers) (ended : pool.Ended) :
    pool.state.result.Alike (.ofEvents (walk.events look)) := by
  obtain ⟨-, nothing, -⟩ := h.nothing_left some_ ended
  obtain ⟨events, state, complete⟩ := h.written
  rw [nothing, List.append_nil] at complete
  rw [state, ScanState.recordAll_result]
  exact ScanResult.ofEvents_alike complete

/-- No bad glob breaks the scan off. -/
theorem Accounted.broken_eq_none (h : Accounted policy look walk workers taken pool) :
    pool.broken = none := by
  have whole := h.whole
  unfold Pool.broken
  split
  · rfl
  · rfl
  next broken closing =>
    rw [closing] at whole
    exact whole

/-- A worker that cannot go on is gone, or waits in front of an empty queue. -/
theorem gone_or_waiting {index : Nat} {w : Worker} (found : pool.workers[index]? = some w)
    (stuck : pool.workerTurn policy look index = none) :
    w = .gone ∨ w = .waiting ∧ pool.queue = [] := by
  rw [Pool.workerTurn, found] at stuck
  cases w with
  | waiting =>
    cases tasks : pool.queue with
    | nil => exact Or.inr ⟨rfl, rfl⟩
    | cons task rest =>
      rw [tasks] at stuck
      cases task <;> cases stuck
  | recording events => cases events <;> cases stuck
  | gone => exact Or.inl rfl

/-- A walker that cannot go on although there is room on the queue has ended. -/
theorem closed_of_stuck (room : pool.queue.length < queueCapacity)
    (stuck : pool.walkerTurn policy = none) : ∃ broken, pool.walker = .closing 0 broken := by
  unfold Pool.walkerTurn at stuck
  split at stuck
  · split at stuck
    · cases stuck
    · split at stuck <;> cases stuck
  · cases stuck
  · cases stuck
  · simp [put?, room] at stuck
  next broken closing => exact ⟨broken, closing⟩
  · simp [put?, room] at stuck

/-- While somebody has not ended, somebody can go on: a queue with tasks has a worker that takes
one, and a worker that waits still has a mark to come. -/
theorem Accounted.ended_of_stuck (h : Accounted policy look walk workers taken pool)
    (some_ : 0 < workers) (stuck : ∀ turn, pool.turn policy look turn = none) : pool.Ended := by
  have settled : ∀ w ∈ pool.workers, w = .gone ∨ w = .waiting ∧ pool.queue = [] := by
    intro w member
    obtain ⟨index, found⟩ := List.getElem?_of_mem member
    exact gone_or_waiting found (stuck (.worker index))
  have marked := h.marked
  by_cases empty : pool.queue = []
  · have room : pool.queue.length < queueCapacity := by
      rw [empty]
      decide
    obtain ⟨broken, closing⟩ := closed_of_stuck room (stuck .walker)
    have noMarks : pool.marks = 0 := by rw [marks, empty]; rfl
    have all : pool.departed = pool.workers.length := by
      rw [closing, noMarks] at marked
      change 0 + pool.departed + 0 = workers at marked
      rw [h.size]
      omega
    exact ⟨⟨broken, closing⟩, departed_eq_length_iff.mp all⟩
  · -- All workers are gone, so neither a mark nor a candidate can be on the queue.
    have gone : ∀ w ∈ pool.workers, w = .gone := fun w member =>
      (settled w member).resolve_right fun waits => empty waits.2
    have all := departed_eq_length_iff.mpr gone
    rw [h.size] at all
    have noMarks : pool.marks = 0 := by omega
    have fifo := h.fifo
    rw [noMarks, h.emptied (by omega)] at fifo
    exact absurd fifo empty

/-! ## The run in which workers go first -/

/-- Turns that follow others make one run with them. -/
theorem Runs.trans {first middle last : Pool} {before rest : List Path}
    (one : Runs policy look first before middle) (two : Runs policy look middle rest last) :
    Runs policy look first (before ++ rest) last := by
  induction two with
  | start => rw [List.append_nil]; exact one
  | step turn earlier goes ih =>
    rw [← List.append_assoc]
    exact .step turn ih goes

/-- Letting workers go before the walker is one way to run a scan. -/
theorem runs_run (pool : Pool) : ∃ taken, Runs policy look pool taken (pool.run policy look) := by
  fun_induction Pool.run policy look pool with
  | case1 pool stuck => exact ⟨[], .start pool⟩
  | case2 pool after comes less ih =>
    obtain ⟨taken, rest⟩ := ih
    obtain ⟨turn, -, goes⟩ := List.exists_of_findSome?_eq_some comes
    exact ⟨_, (Runs.step turn (.start pool) goes).trans rest⟩

/-- It goes on until nobody can. -/
theorem next_run (pool : Pool) : (pool.run policy look).next? policy look = none := by
  fun_induction Pool.run policy look pool with
  | case1 pool stuck => exact stuck
  | case2 pool after comes less ih => exact ih

/-- If nothing comes next then nobody can go on. -/
theorem stuck_of_next (h : pool.next? policy look = none) (turn : Turn) :
    pool.turn policy look turn = none := by
  have all := List.findSome?_eq_none_iff.mp h
  cases turn with
  | walker => exact all .walker (by simp [turns])
  | worker index =>
    by_cases inside : index < pool.workers.length
    · exact all (.worker index) (by simp [turns, inside])
    · have nobody : pool.workers[index]? = none := List.getElem?_eq_none (by omega)
      rw [Pool.turn, workerTurn, nobody]

end Pool

end DocGraph
