import DocGraph.Number.Total
import DocGraph.Scan.Walk

/-!
# Scanning with workers

While a walk goes on, workers look at the candidates that it has come to. They are handed over on
a queue that holds a limited number of tasks, the oldest of which is taken first. When the walk
is over, each worker gets the task to leave, behind the last candidate. The walker and the
workers write down what happens in one state, one event at a time.

`Pool` is where all of them are between two events, and `Pool.turn` lets one of them go on. Who it
is does not follow from anything here, so a scan can run in many ways; `Pool.run` is one of them.
What a turn leads to, and what it takes, is listed once, in `WalkerStep` and `WorkerStep`. Every turn
takes away from what is left to do, which is why no way of running goes on forever.

The walker gives up when it sees that a failure has ended the scan, and a worker does not: it
looks at whatever is still on the queue.
-/

set_option autoImplicit false

namespace DocGraph

/-- What a worker finds on the queue. -/
inductive Task where
  /-- Look at a candidate. -/
  | look (path : Path)
  /-- Nothing more will come. -/
  | leave
  deriving DecidableEq, Repr

/-- How many tasks the queue holds. -/
def queueCapacity : Nat := 100

/-- What the walker is about to do. -/
inductive Walker where
  /-- Go on with a walk, unless the scan has been given up. -/
  | walking (rest : Walk)
  /-- Do one thing, and go on with a walk. -/
  | doing (visit : Visit) (rest : Walk)
  /-- Tell so many workers to leave. The walk is over, and an error may have ended it. -/
  | closing (workers : Nat) (broken : Option GlobError)
  deriving DecidableEq, Repr

/-- What a worker is about to do. -/
inductive Worker where
  /-- Take a task. -/
  | waiting
  /-- Write down events. -/
  | recording (events : List ScanEvent)
  /-- Nothing anymore. -/
  | gone
  deriving DecidableEq, Repr

/-- A scan with workers. -/
structure Pool where
  walker : Walker
  /-- The tasks, the oldest first. -/
  queue : List Task := []
  workers : List Worker
  state : ScanState := {}
  deriving DecidableEq, Repr

/-- Who goes on. -/
inductive Turn where
  | walker
  | worker (index : Nat)
  deriving DecidableEq, Repr

namespace Pool

/-- The start of a scan along a walk. -/
def start (walk : Walk) (workers : Nat) : Pool :=
  { walker := .walking walk, workers := List.replicate workers .waiting }

/-- Write down an event. -/
def note (policy : AbortPolicy) (pool : Pool) (event : ScanEvent) : Pool :=
  { pool with state := pool.state.record policy event }

/-- Put a task on the queue, if there is room. -/
def put? (pool : Pool) (task : Task) : Option Pool :=
  if pool.queue.length < queueCapacity then some { pool with queue := pool.queue ++ [task] }
  else none

/-- Let a worker be about to do something else. -/
def assign (pool : Pool) (index : Nat) (worker : Worker) : Pool :=
  { pool with workers := pool.workers.set index worker }

/-- Let the walker be about to do something else. -/
def proceed (pool : Pool) (walker : Walker) : Pool :=
  { pool with walker }

/-- The walker goes on, unless it waits for room or has nothing more to do. -/
def walkerTurn (policy : AbortPolicy) (pool : Pool) : Option Pool :=
  match pool.walker with
  | .walking walk =>
    if pool.state.abort.isSome then some (pool.proceed (.closing pool.workers.length none))
    else
      match walk.visits with
      | [] => some (pool.proceed (.closing pool.workers.length walk.broken))
      | visit :: rest => some (pool.proceed (.doing visit { walk with visits := rest }))
  | .doing (.listed _) rest => some (pool.proceed (.walking rest))
  | .doing (.failed path failure) rest =>
    some ((pool.note policy (.failed path failure true)).proceed (.walking rest))
  | .doing (.candidate path) rest =>
    (pool.put? (.look path)).map fun next => next.proceed (.walking rest)
  | .closing 0 _ => none
  | .closing (n + 1) broken => (pool.put? .leave).map fun next => next.proceed (.closing n broken)

/-- A worker goes on, unless it waits for a task or is gone. -/
def workerTurn (policy : AbortPolicy) (look : Path → List ScanEvent) (pool : Pool)
    (index : Nat) : Option Pool :=
  match pool.workers[index]? with
  | some .waiting =>
    match pool.queue with
    | [] => none
    | .look path :: rest =>
      some ({ pool with queue := rest }.assign index (.recording (look path)))
    | .leave :: rest => some ({ pool with queue := rest }.assign index .gone)
  | some (.recording []) => some (pool.assign index .waiting)
  | some (.recording (event :: rest)) =>
    some ((pool.note policy event).assign index (.recording rest))
  | some .gone | none => none

/-- Somebody goes on, if they can. -/
def turn (policy : AbortPolicy) (look : Path → List ScanEvent) (pool : Pool) :
    Turn → Option Pool
  | .walker => pool.walkerTurn policy
  | .worker index => pool.workerTurn policy look index

/-- Everybody, workers first. -/
def turns (pool : Pool) : List Turn :=
  (List.range pool.workers.length).map Turn.worker ++ [.walker]

/-- What comes next if workers go before the walker; nothing if nobody can go on. -/
def next? (policy : AbortPolicy) (look : Path → List ScanEvent) (pool : Pool) : Option Pool :=
  pool.turns.findSome? (pool.turn policy look)

/-! ## What a turn does -/

/-- A task is put on the queue if there is room, and that changes nothing but the queue. -/
theorem put_eq_some_iff {pool after : Pool} {task : Task} :
    pool.put? task = some after ↔
      pool.queue.length < queueCapacity ∧ after = { pool with queue := pool.queue ++ [task] } := by
  unfold put?
  split
  next room => simp only [room, true_and, Option.some.injEq, eq_comm]
  next full => simp only [full, false_and, reduceCtorEq]

/-- What a turn of the walker leads to, and what it takes. -/
inductive WalkerStep (policy : AbortPolicy) (pool : Pool) : Pool → Prop
  /-- The scan has been given up, so nothing more of the walk is looked at. -/
  | giveUp {walk : Walk} (walking : pool.walker = .walking walk)
      (given : pool.state.abort ≠ none) :
      WalkerStep policy pool (pool.proceed (.closing pool.workers.length none))
  /-- The walk is over. -/
  | close {walk : Walk} (walking : pool.walker = .walking walk) (goesOn : pool.state.abort = none)
      (ended : walk.visits = []) :
      WalkerStep policy pool (pool.proceed (.closing pool.workers.length walk.broken))
  /-- The walk has a next visit. -/
  | visit {walk : Walk} {visit : Visit} {rest : List Visit} (walking : pool.walker = .walking walk)
      (goesOn : pool.state.abort = none) (more : walk.visits = visit :: rest) :
      WalkerStep policy pool (pool.proceed (.doing visit { walk with visits := rest }))
  /-- A directory was listed. -/
  | list {directory : Path} {rest : Walk} (doing : pool.walker = .doing (.listed directory) rest) :
      WalkerStep policy pool (pool.proceed (.walking rest))
  /-- A failure is written down. -/
  | fail {path : Path} {failure : Failure} {rest : Walk}
      (doing : pool.walker = .doing (.failed path failure) rest) :
      WalkerStep policy pool ((pool.note policy (.failed path failure true)).proceed (.walking rest))
  /-- A candidate is put on the queue. -/
  | offer {path : Path} {rest : Walk} (doing : pool.walker = .doing (.candidate path) rest)
      (room : pool.queue.length < queueCapacity) :
      WalkerStep policy pool
        ({ pool with queue := pool.queue ++ [Task.look path] }.proceed (.walking rest))
  /-- A worker is told to leave. -/
  | tell {left : Nat} {broken : Option GlobError} (closing : pool.walker = .closing (left + 1) broken)
      (room : pool.queue.length < queueCapacity) :
      WalkerStep policy pool
        ({ pool with queue := pool.queue ++ [Task.leave] }.proceed (.closing left broken))

/-- What a turn of a worker leads to, and what it takes. -/
inductive WorkerStep (policy : AbortPolicy) (look : Path → List ScanEvent) (pool : Pool)
    (index : Nat) : Pool → Prop
  /-- A candidate is taken off the queue and looked at. -/
  | take {path : Path} {rest : List Task} (free : pool.workers[index]? = some .waiting)
      (front : pool.queue = .look path :: rest) :
      WorkerStep policy look pool index
        ({ pool with queue := rest }.assign index (.recording (look path)))
  /-- The task to leave is taken off the queue. -/
  | leave {rest : List Task} (free : pool.workers[index]? = some .waiting)
      (front : pool.queue = .leave :: rest) :
      WorkerStep policy look pool index ({ pool with queue := rest }.assign index .gone)
  /-- All events have been written down. -/
  | finish (busy : pool.workers[index]? = some (.recording [])) :
      WorkerStep policy look pool index (pool.assign index .waiting)
  /-- One more event is written down. -/
  | write {event : ScanEvent} {rest : List ScanEvent}
      (busy : pool.workers[index]? = some (.recording (event :: rest))) :
      WorkerStep policy look pool index
        ((pool.note policy event).assign index (.recording rest))

/-- The walker has a turn exactly if one of its steps can be taken, and that is its turn. -/
theorem walkerTurn_eq_some_iff {policy : AbortPolicy} {pool after : Pool} :
    pool.walkerTurn policy = some after ↔ WalkerStep policy pool after := by
  constructor
  · intro goes
    unfold walkerTurn at goes
    split at goes
    next walk walking =>
      split at goes
      next given =>
        cases goes
        exact .giveUp walking (Option.isSome_iff_ne_none.mp given)
      next goesOn =>
        have goesOn : pool.state.abort = none := Option.not_isSome_iff_eq_none.mp goesOn
        split at goes
        next ended =>
          cases goes
          exact .close walking goesOn ended
        next visit rest more =>
          cases goes
          exact .visit walking goesOn more
    next directory rest doing =>
      cases goes
      exact .list doing
    next path failure rest doing =>
      cases goes
      exact .fail doing
    next path rest doing =>
      obtain ⟨put, fits, rfl⟩ := Option.map_eq_some_iff.mp goes
      obtain ⟨room, rfl⟩ := put_eq_some_iff.mp fits
      exact .offer doing room
    next broken closed => cases goes
    next left broken closing =>
      obtain ⟨put, fits, rfl⟩ := Option.map_eq_some_iff.mp goes
      obtain ⟨room, rfl⟩ := put_eq_some_iff.mp fits
      exact .tell closing room
  · intro step
    unfold walkerTurn
    cases step with
    | giveUp walking given => simp only [walking, Option.isSome_iff_ne_none.mpr given, if_true]
    | close walking goesOn ended => simp [walking, goesOn, ended]
    | visit walking goesOn more => simp [walking, goesOn, more]
    | list doing => simp only [doing]
    | fail doing => simp only [doing]
    | offer doing room => simp only [doing, put_eq_some_iff.mpr ⟨room, rfl⟩, Option.map_some]
    | tell closing room => simp only [closing, put_eq_some_iff.mpr ⟨room, rfl⟩, Option.map_some]

/-- A worker has a turn exactly if one of its steps can be taken, and that is its turn. -/
theorem workerTurn_eq_some_iff {policy : AbortPolicy} {look : Path → List ScanEvent}
    {pool after : Pool} {index : Nat} :
    pool.workerTurn policy look index = some after ↔ WorkerStep policy look pool index after := by
  constructor
  · intro goes
    unfold workerTurn at goes
    split at goes
    next free =>
      split at goes
      next empty => cases goes
      next path rest front =>
        cases goes
        exact .take free front
      next rest front =>
        cases goes
        exact .leave free front
    next busy =>
      cases goes
      exact .finish busy
    next event rest busy =>
      cases goes
      exact .write busy
    next gone => cases goes
    next nobody => cases goes
  · intro step
    unfold workerTurn
    cases step with
    | take free front => simp only [free, front]
    | leave free front => simp only [free, front]
    | finish busy => simp only [busy]
    | write busy => simp only [busy]

/-! ## What is left to do -/

/-- How many turns a task takes once it is on the queue. -/
def taskWork (look : Path → List ScanEvent) : Task → Nat
  | .look path => (look path).length + 2
  | .leave => 1

/-- How many turns a visit takes once the walker is about to make it. -/
def visitWork (look : Path → List ScanEvent) : Visit → Nat
  | .candidate path => taskWork look (.look path) + 1
  | _ => 1

/-- How many turns the visits of a walk take. -/
def visitsWork (look : Path → List ScanEvent) (visits : List Visit) : Nat :=
  Number.total (visits.map fun visit => visitWork look visit + 1)

/-- How many turns what the walker is about to do takes, with a number of workers. -/
def walkerWork (look : Path → List ScanEvent) (workers : Nat) : Walker → Nat
  | .walking rest => visitsWork look rest.visits + 2 * workers + 1
  | .doing visit rest => visitWork look visit + visitsWork look rest.visits + 2 * workers + 1
  | .closing n _ => 2 * n

/-- How many turns a worker takes until it waits for a task. -/
def workerWork : Worker → Nat
  | .recording events => events.length + 1
  | _ => 0

/-- How many turns the scan takes at most. -/
def work (look : Path → List ScanEvent) (pool : Pool) : Nat :=
  walkerWork look pool.workers.length pool.walker +
    Number.total (pool.queue.map (taskWork look)) + Number.total (pool.workers.map workerWork)

/-- A worker that is about to do something else changes the work of all workers by the
difference. -/
theorem workerWork_set (workers : List Worker) (i : Nat) (old new : Worker)
    (h : workers[i]? = some old) :
    Number.total ((workers.set i new).map workerWork) + workerWork old =
      Number.total (workers.map workerWork) + workerWork new := by
  rw [List.map_set]
  exact Number.total_set _ i _ _ (by simp [h])

/-- A walker that is about to do something else changes what is left to do by the difference. -/
theorem proceed_work (look : Path → List ScanEvent) (pool : Pool) (walker : Walker) :
    (pool.proceed walker).work look + walkerWork look pool.workers.length pool.walker =
      pool.work look + walkerWork look pool.workers.length walker := by
  simp only [work, proceed]
  omega

/-- A walker that puts a task on the queue leaves that to do as well. -/
theorem enqueue_work (look : Path → List ScanEvent) (pool : Pool) (task : Task) {now : Walker}
    (doing : pool.walker = now) (next : Walker) :
    ({ pool with queue := pool.queue ++ [task] }.proceed next).work look +
        walkerWork look pool.workers.length now =
      pool.work look + taskWork look task + walkerWork look pool.workers.length next := by
  simp only [work, proceed, doing, List.map_append, List.map_cons, List.map_nil,
    Number.total_append, Number.total_cons, Number.total_nil]
  omega

/-- A turn of the walker takes away from what is left to do. -/
theorem walkerTurn_work (policy : AbortPolicy) (look : Path → List ScanEvent)
    (pool after : Pool) (h : pool.walkerTurn policy = some after) :
    after.work look < pool.work look := by
  cases walkerTurn_eq_some_iff.mp h with
  | @giveUp walk walking given =>
    have := proceed_work look pool (.closing pool.workers.length none)
    simp only [walking, walkerWork] at this
    omega
  | @close walk walking goesOn ended =>
    have := proceed_work look pool (.closing pool.workers.length walk.broken)
    simp only [walking, walkerWork] at this
    omega
  | @visit walk visit rest walking goesOn more =>
    have := proceed_work look pool (.doing visit { walk with visits := rest })
    simp only [walking, walkerWork, visitsWork, more, List.map_cons, Number.total_cons] at this
    omega
  | @list directory rest doing =>
    have := proceed_work look pool (.walking rest)
    simp only [doing, walkerWork, visitWork] at this
    omega
  | @fail path failure rest doing =>
    have := proceed_work look (pool.note policy (.failed path failure true)) (.walking rest)
    simp only [note, doing, walkerWork, visitWork, work] at this ⊢
    omega
  | @offer path rest doing room =>
    have := enqueue_work look pool (.look path) doing (.walking rest)
    simp only [walkerWork, visitWork] at this
    omega
  | @tell left broken closing room =>
    have := enqueue_work look pool .leave closing (.closing left broken)
    simp only [walkerWork, taskWork] at this
    omega

/-- A turn of a worker takes away from what is left to do. -/
theorem workerTurn_work (policy : AbortPolicy) (look : Path → List ScanEvent)
    (pool after : Pool) (index : Nat) (h : pool.workerTurn policy look index = some after) :
    after.work look < pool.work look := by
  cases workerTurn_eq_some_iff.mp h with
  | @take path rest free front =>
    have := workerWork_set pool.workers index _ (.recording (look path)) free
    simp only [work, assign, front, taskWork, workerWork, List.length_set, List.map_cons,
      Number.total_cons] at this ⊢
    omega
  | @leave rest free front =>
    have := workerWork_set pool.workers index _ .gone free
    simp only [work, assign, front, taskWork, workerWork, List.length_set, List.map_cons,
      Number.total_cons] at this ⊢
    omega
  | finish busy =>
    have := workerWork_set pool.workers index _ .waiting busy
    simp only [work, assign, workerWork, List.length_set, List.length_nil] at this ⊢
    omega
  | @write event rest busy =>
    have := workerWork_set pool.workers index _ (.recording rest) busy
    simp only [work, assign, note, workerWork, List.length_set, List.length_cons] at this ⊢
    omega

/-- Every turn takes away from what is left to do. -/
theorem turn_work (policy : AbortPolicy) (look : Path → List ScanEvent) (pool after : Pool)
    (t : Turn) (h : pool.turn policy look t = some after) : after.work look < pool.work look := by
  cases t with
  | walker => exact walkerTurn_work policy look pool after h
  | worker index => exact workerTurn_work policy look pool after index h

/-- What comes next takes away from what is left to do. -/
theorem next_work (policy : AbortPolicy) (look : Path → List ScanEvent) (pool after : Pool)
    (h : pool.next? policy look = some after) : after.work look < pool.work look := by
  obtain ⟨t, _, ht⟩ := List.exists_of_findSome?_eq_some h
  exact turn_work policy look pool after t ht

/-- Go on until nobody can. -/
def run (policy : AbortPolicy) (look : Path → List ScanEvent) (pool : Pool) : Pool :=
  match h : pool.next? policy look with
  | none => pool
  | some after =>
    have := next_work policy look pool after h
    after.run policy look
termination_by pool.work look

/-- The error that ended the walk, if any. -/
def broken (pool : Pool) : Option GlobError :=
  match pool.walker with
  | .walking _ | .doing _ _ => none
  | .closing _ broken => broken

end Pool

end DocGraph
