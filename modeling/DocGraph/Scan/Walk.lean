import DocGraph.IgnoreRule
import DocGraph.Scan.Inspection

/-!
# Walking a tree

The walk goes through the directories below a root and says, in order, what it does there: it
lists a directory, comes to a candidate, which is a file that the scan has to look at, or fails.
The candidates of a directory, by name, come before those of its subdirectories, by name. An
ignored directory is never listed.

`Exploration.next?` is one round of it. The directories that are yet to be listed are on a stack, of
which the first one is taken off. Its entries are dealt with by name, and then its subdirectories are
put onto the stack, the last one first. `explore` goes on as long as there are directories on the
stack. It comes to an end because a path below a directory that is listed is longer, and a path that
is too long cannot be listed.

Links are passed over, unless they are to be followed. Then a directory may be reached in many
ways, and in a circle, and only the first way to it counts: when a path is taken off the stack, its
real path must not have been seen.

A glob that cannot be read ends the walk. What was done before that stands. Whether the scan has been
given up is looked at before a directory is listed and before an entry of a directory is dealt with.
What is done in between is a `Stretch`, with what is asked of the file system. `WalkPlan.course` is
the walk in stretches, and `WalkPlan.walk` is what is left of it without the questions.
-/

set_option autoImplicit false

namespace DocGraph

/-- Something a walk does. -/
inductive Visit where
  | listed (directory : Path)
  | candidate (path : Path)
  | failed (path : Path) (failure : Failure)
  deriving DecidableEq, Repr

/-- What a walk does, and the error that ends it, if any. -/
structure Walk where
  visits : List Visit := []
  broken : Option GlobError := none
  deriving DecidableEq, Repr

/-- What is done between two tests of whether the scan has been given up: questions, and then at most
one visit, unless a glob cannot be read. -/
structure Stretch where
  asked : List Query := []
  visit? : Option Visit := none
  broken : Option GlobError := none
  deriving DecidableEq, Repr

namespace Stretch

/-- What a stretch is as a walk. -/
def walk (s : Stretch) : Walk :=
  ⟨s.visit?.toList, s.broken⟩

/-- A directory is listed, and something comes of it. -/
def listing (directory : Path) (visit : Visit) : Stretch :=
  { asked := [.listing directory], visit? := some visit }

end Stretch

namespace Walk

/-- The walk that does nothing. -/
def nothing : Walk := {}

/-- The walk that does one thing. -/
def one (v : Visit) : Walk := { visits := [v] }

/-- One walk and then another, unless the first one is ended by an error. -/
def andThen (first second : Walk) : Walk :=
  match first.broken with
  | some _ => first
  | none => ⟨first.visits ++ second.visits, second.broken⟩

/-- Several walks, one after the other. -/
def sequence (walks : List Walk) : Walk :=
  walks.foldr andThen nothing

/-- The walk of several stretches. -/
def ofCourse (course : List Stretch) : Walk :=
  sequence (course.map Stretch.walk)

end Walk

/-! ## Asking the file system -/

namespace Site

/-- The entries of a directory in the order of names, if it can be listed. -/
def entriesOf (site : Site) (directory : Path) : Except SystemFault (List (String × Entry)) :=
  match site.files.locate directory with
  | .ok (.directory entries) =>
    match site.obstacles.listing directory with
    | some fault => .error fault
    | none => .ok (entries.mergeSort fun a b => !(b.1 < a.1))
  | .ok _ => .error .notADirectory
  | .error fault => .error fault

end Site

/-- What an entry of a directory is to a walk. -/
inductive EntryKind where
  | directory
  | file
  /-- A link that is passed over. -/
  | link
  /-- Something of which it cannot be told what it is. -/
  | unclear (fault : SystemFault)
  deriving DecidableEq, Repr

/-- What an entry of a directory is. If links are followed, nothing is known of one that leads nowhere
until it is looked at, and other faults show at once. -/
def Site.kindOf (site : Site) (followLinks : Bool) (path : Path) (entry : Entry) : EntryKind :=
  match site.obstacles.kind path, entry with
  | some fault, _ => .unclear fault
  | none, .file _ _ => .file
  | none, .directory _ => .directory
  | none, .link _ =>
    if followLinks then
      match site.files.locate path with
      | .ok (.directory _) => .directory
      | .ok _ => .file
      | .error .notFound => .file
      | .error fault => .unclear fault
    else .link

/-! ## Dealing with a directory -/

/-- Where a walk starts and what it leaves out. -/
structure WalkPlan where
  root : Path
  rules : IgnoreRules
  /-- Globs, one of which a candidate has to match, unless there are none. -/
  includePatterns : List String

namespace WalkPlan

/-- The path of something below the root, as the rules see it. -/
def relative (plan : WalkPlan) (path : Path) : String :=
  path.relativeText plan.root

/-- Whether a path is ignored. -/
def ignores (plan : WalkPlan) (path : Path) : Except GlobError Bool :=
  plan.rules.ignores (plan.relative path)

/-- Whether a file matches what is to be included. -/
def includes (plan : WalkPlan) (path : Path) : Except GlobError Bool :=
  if plan.includePatterns.isEmpty then .ok true
  else Glob.matchesAny? (plan.relative path) plan.includePatterns

/-- Deal with an entry of a directory. Gives what is done about it, and its path if it is a directory
that is to be listed later. -/
def meet (plan : WalkPlan) (site : Site) (followLinks : Bool) (path : Path) (entry : Entry) :
    Stretch × Option Path :=
  match plan.ignores path with
  | .error e => ({ broken := some e }, none)
  | .ok true => ({}, none)
  | .ok false =>
    let asked := [Query.kind path]
    match site.kindOf followLinks path entry with
    | .directory => ({ asked }, some path)
    | .link => ({ asked }, none)
    | .unclear fault => ({ asked, visit? := some (.failed path (fault.failureAt path)) }, none)
    | .file =>
      match plan.includes path with
      | .error e => ({ asked, broken := some e }, none)
      | .ok false => ({ asked }, none)
      | .ok true => ({ asked, visit? := some (.candidate path) }, none)

/-- List a directory and deal with its entries. Gives what is done about them, and the directories
among them that are to be listed later. -/
def round (plan : WalkPlan) (site : Site) (followLinks : Bool) (path : Path) :
    List Stretch × List Path :=
  match site.entriesOf path with
  | .error fault => ([.listing path (.failed path (fault.failureAt path))], [])
  | .ok entries =>
    let met := entries.map fun e => plan.meet site followLinks (path.child e.1) e.2
    (.listing path (.listed path) :: met.map Prod.fst, met.filterMap Prod.snd)

end WalkPlan

/-! ## Round after round -/

/-- Where a walk is: the real paths that it has seen, which it keeps if it follows links, the
directories that it has yet to come to, and its course so far. -/
structure Exploration where
  seen : List Path := []
  stack : List Path
  course : List Stretch := []

/-- Put directories onto a stack, the last one first, so that the first one is taken off next. -/
def pushAll (directories stack : List Path) : List Path :=
  directories.reverse.foldl (fun stack directory => directory :: stack) stack

/-- What is on the stack then. -/
@[simp]
theorem pushAll_eq (directories stack : List Path) :
    pushAll directories stack = directories ++ stack := by
  rw [pushAll, List.foldl_reverse, List.foldr_cons_eq_append']

namespace Exploration

/-- One round; none if the stack is empty. -/
def next? (plan : WalkPlan) (site : Site) (followLinks : Bool) (x : Exploration) :
    Option Exploration :=
  match x.stack with
  | [] => none
  | path :: stack =>
    if followLinks ∧ site.files.realPath path ∈ x.seen then some { x with stack }
    else
      let (done, subdirectories) := plan.round site followLinks path
      some
        { seen := if followLinks then site.files.realPath path :: x.seen else x.seen
          stack := pushAll subdirectories stack
          course := x.course ++ done }

end Exploration

/-! ### Why it ends -/

/-- A path has no more parts than bytes, but for one. -/
theorem Path.length_le_size (p : Path) : p.parts.length ≤ p.toString.utf8ByteSize + 1 := by
  have joined : ∀ names : List String,
      names.length ≤ ("/".intercalate names).utf8ByteSize + 1 := by
    intro names
    induction names with
    | nil => exact Nat.zero_le _
    | cons name rest ih =>
      cases rest with
      | nil => exact Nat.le_add_left 1 _
      | cons next rest =>
        have slash : "/".utf8ByteSize = 1 := rfl
        rw [String.intercalate_cons_cons, String.utf8ByteSize_append, String.utf8ByteSize_append,
          List.length_cons, slash]
        omega
  unfold toString
  split
  next empty =>
    obtain ⟨-, none_⟩ := Bool.and_eq_true_iff.mp empty
    rw [List.isEmpty_iff.mp none_]
    exact Nat.zero_le _
  next =>
    have parts := joined p.parts
    rw [String.utf8ByteSize_append]
    omega

/-- A directory that can be listed has a path that is not too long. -/
theorem Site.size_of_entriesOf {site : Site} {directory : Path} {entries : List (String × Entry)}
    (h : site.entriesOf directory = .ok entries) :
    directory.toString.utf8ByteSize ≤ pathLimit := by
  unfold entriesOf FileSystem.locate at h
  by_cases null : directory.hasNull = true
  · simp [null] at h
  · by_cases long : pathLimit < directory.toString.utf8ByteSize
    · simp [null, long] at h
    · exact Nat.le_of_not_lt long

/-- How many parts may be added to a path before it is too long to be listed, at most. -/
def Path.room (path : Path) : Nat :=
  pathLimit + 2 - path.parts.length

namespace WalkPlan

variable {plan : WalkPlan} {site : Site} {followLinks : Bool}

/-- What is to be listed later is the entry that was met. -/
theorem meet_directory {path directory : Path} {entry : Entry}
    (h : (plan.meet site followLinks path entry).2 = some directory) : directory = path := by
  unfold meet at h
  split at h
  · cases h
  · cases h
  · split at h
    · exact (Option.some.inj h).symm
    · cases h
    · cases h
    · split at h <;> cases h

/-- What is to be listed later is one level further down, and something else could be listed. -/
theorem room_of_subdirectory {path directory : Path}
    (h : directory ∈ (plan.round site followLinks path).2) :
    directory.room + 1 = path.room := by
  unfold round at h
  cases listed : site.entriesOf path with
  | error fault => simp [listed] at h
  | ok entries =>
    have short := Nat.le_trans path.length_le_size
      (Nat.add_le_add_right (Site.size_of_entriesOf listed) 1)
    simp only [listed, List.mem_filterMap, List.mem_map] at h
    obtain ⟨met, ⟨e, -, rfl⟩, later⟩ := h
    rw [meet_directory later]
    simp only [Path.room, Path.child, List.length_append, List.length_singleton]
    omega

/-- How many rounds a walk takes from a directory on, if it goes down so far at most and sees no path
twice. -/
def extent (plan : WalkPlan) (site : Site) (followLinks : Bool) : Nat → Path → Nat
  | 0, _ => 1
  | depth + 1, path =>
    1 + Number.total ((plan.round site followLinks path).2.map (extent plan site followLinks depth))

/-- A round takes away one of the rounds that a walk takes from a directory on. -/
theorem extent_round (path : Path) :
    plan.extent site followLinks path.room path = 1 + Number.total
      ((plan.round site followLinks path).2.map fun d => plan.extent site followLinks d.room d) := by
  cases room : path.room with
  | zero =>
    have nothing : (plan.round site followLinks path).2 = [] := by
      refine List.eq_nil_iff_forall_not_mem.mpr fun directory later => ?_
      have deeper := room_of_subdirectory later
      omega
    rw [nothing]
    rfl
  | succ depth =>
    rw [extent]
    congr 2
    refine List.map_congr_left fun directory later => ?_
    have deeper := room_of_subdirectory later
    rw [show directory.room = depth by omega]

end WalkPlan

namespace Exploration

variable {plan : WalkPlan} {site : Site} {followLinks : Bool}

/-- How many rounds are left at most. -/
def left (plan : WalkPlan) (site : Site) (followLinks : Bool) (x : Exploration) : Nat :=
  Number.total (x.stack.map fun d => plan.extent site followLinks d.room d)

/-- What a round does: the path was seen, or it is listed now. -/
theorem next_eq_some_iff {x y : Exploration} :
    x.next? plan site followLinks = some y ↔ ∃ path stack, x.stack = path :: stack ∧
      ((followLinks = true ∧ site.files.realPath path ∈ x.seen) ∧ y = { x with stack } ∨
        ¬(followLinks = true ∧ site.files.realPath path ∈ x.seen) ∧
          y =
            { seen := if followLinks then site.files.realPath path :: x.seen else x.seen
              stack := (plan.round site followLinks path).2 ++ stack
              course := x.course ++ (plan.round site followLinks path).1 }) := by
  unfold next?
  cases pending : x.stack with
  | nil => simp
  | cons path stack =>
    simp only [pushAll_eq, List.cons.injEq]
    constructor
    · intro goes
      refine ⟨path, stack, ⟨rfl, rfl⟩, ?_⟩
      split at goes
      next seen => exact Or.inl ⟨seen, (Option.some.inj goes).symm⟩
      next new => exact Or.inr ⟨new, (Option.some.inj goes).symm⟩
    · rintro ⟨_, _, ⟨rfl, rfl⟩, ⟨seen, rfl⟩ | ⟨new, rfl⟩⟩
      · rw [if_pos seen]
      · rw [if_neg new]

/-- After a round fewer rounds are left. -/
theorem next_left {x y : Exploration} (goes : x.next? plan site followLinks = some y) :
    y.left plan site followLinks < x.left plan site followLinks := by
  obtain ⟨path, stack, pending, ⟨-, rfl⟩ | ⟨-, rfl⟩⟩ := next_eq_some_iff.mp goes
  · have some_ := @WalkPlan.extent_round plan site followLinks path
    simp only [left, pending, List.map_cons, Number.total_cons]
    omega
  · simp only [left, pending, List.map_cons, List.map_append, Number.total_cons,
      Number.total_append, WalkPlan.extent_round path]
    omega

/-- Go on until the stack is empty. -/
def explore (plan : WalkPlan) (site : Site) (followLinks : Bool) (x : Exploration) : Exploration :=
  match goes : x.next? plan site followLinks with
  | none => x
  | some y =>
    have := next_left goes
    y.explore plan site followLinks
termination_by x.left plan site followLinks

end Exploration

namespace WalkPlan

/-- The walk from the root, in stretches. -/
def course (plan : WalkPlan) (site : Site) (followLinks : Bool) : List Stretch :=
  (Exploration.explore plan site followLinks { stack := [plan.root] }).course

/-- The walk from the root. A root that is a file cannot be listed. -/
def walk (plan : WalkPlan) (site : Site) (followLinks : Bool) : Walk :=
  .ofCourse (plan.course site followLinks)

end WalkPlan

end DocGraph
