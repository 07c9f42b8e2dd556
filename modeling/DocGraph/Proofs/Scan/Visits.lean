import DocGraph.Proofs.FileSystem.Locate
import DocGraph.Proofs.Scan.Readable
import DocGraph.Proofs.Sorting

/-!
# What a walk visits

A walk is what is left of its course, stretch by stretch, until one of them is broken off. Each
stretch belongs to the round in which a directory was taken off the stack, so what holds of the root,
and of the subdirectories that are put onto the stack if it holds of their directory, holds wherever
something is done: `stretch_of_round`. From this it follows that every candidate lies below the root
by valid names, whether or not links are followed, and that a readable plan is never broken off.
-/

set_option autoImplicit false

namespace DocGraph

/-- The path that a visit is about. -/
def Visit.path : Visit → Path
  | .listed directory => directory
  | .candidate path => path
  | .failed path _ => path

/-- The path that a query is about. -/
def Query.path : Query → Path
  | .listing directory => directory
  | .kind path => path
  | .status path => path
  | .content path => path

/-- The candidate that a visit comes to, if it does. -/
def Visit.candidate? : Visit → Option Path
  | .candidate path => some path
  | _ => none

/-- The candidate that a stretch comes to, if it does. -/
def Stretch.candidate? (s : Stretch) : Option Path :=
  s.visit?.bind Visit.candidate?

/-- The candidates of a walk, in the order in which it comes to them. -/
def Walk.candidates (walk : Walk) : List Path :=
  walk.visits.filterMap Visit.candidate?

/-- The candidates of a walk are what it visits as such. -/
theorem Walk.mem_candidates {walk : Walk} {path : Path} :
    path ∈ walk.candidates ↔ .candidate path ∈ walk.visits := by
  rw [candidates, List.mem_filterMap]
  constructor
  · rintro ⟨visit, visited, same⟩
    cases visit with
    | candidate candidate =>
      cases same
      exact visited
    | listed directory => cases same
    | failed failed failure => cases same
  · intro visited
    exact ⟨.candidate path, visited, rfl⟩

/-- A path that lies below a root by one or more valid names. -/
def Path.Beneath (path root : Path) : Prop :=
  ∃ chain, chain ≠ [] ∧ (∀ name ∈ chain, ValidName name) ∧ path = root.below chain

/-- A path that is another one or lies beneath it. -/
def Path.Within (path root : Path) : Prop :=
  path = root ∨ path.Beneath root

namespace Path

/-- A child with a valid name lies beneath. -/
theorem beneath_child {name : String} (valid : ValidName name) (path : Path) :
    (path.child name).Beneath path := by
  refine ⟨[name], by simp, ?_, child_eq_below path name⟩
  intro n member
  rw [List.mem_singleton.mp member]
  exact valid

/-- Paths beneath the same path can be told apart by their texts. -/
theorem Beneath.eq_of_toString {first second root : Path} (left : first.Beneath root)
    (right : second.Beneath root) (h : first.toString = second.toString) : first = second := by
  obtain ⟨names, some_, valid, rfl⟩ := left
  obtain ⟨others, any, validOthers, rfl⟩ := right
  rw [toString_below_injective root some_ any valid validOthers h]

/-- What lies beneath a path that lies beneath a root lies beneath the root. -/
theorem Beneath.trans {root middle path : Path} (inner : path.Beneath middle)
    (outer : middle.Beneath root) : path.Beneath root := by
  obtain ⟨first, nonempty, validFirst, rfl⟩ := outer
  obtain ⟨second, -, validSecond, rfl⟩ := inner
  refine ⟨first ++ second, by simp [nonempty], ?_, below_below _ _ _⟩
  intro name member
  rcases List.mem_append.mp member with member | member
  · exact validFirst name member
  · exact validSecond name member

/-- A child of what lies in a root lies beneath it. -/
theorem Within.child {path root : Path} (within : path.Within root) {name : String}
    (valid : ValidName name) : (path.child name).Beneath root := by
  rcases within with rfl | beneath
  · exact beneath_child valid path
  · exact (beneath_child valid path).trans beneath

end Path

namespace Walk

variable {first second : Walk}

/-- A walk that is not broken off is followed by the next one. -/
theorem andThen_visits (h : first.broken = none) :
    (first.andThen second).visits = first.visits ++ second.visits := by
  rw [andThen, h]

/-- What follows a walk that is not broken off may be. -/
theorem andThen_broken (h : first.broken = none) :
    (first.andThen second).broken = second.broken := by
  rw [andThen, h]

/-- Nothing more is done after a walk that does nothing more. -/
theorem andThen_nothing (walk : Walk) : walk.andThen nothing = walk := by
  unfold andThen
  split
  · rfl
  next whole =>
    change Walk.mk (walk.visits ++ []) none = walk
    rw [List.append_nil, ← whole]

/-- It does not matter which of three walks in a row are put together first. -/
theorem andThen_assoc (first second third : Walk) :
    (first.andThen second).andThen third = first.andThen (second.andThen third) := by
  cases brokenFirst : first.broken with
  | some e => simp [andThen, brokenFirst]
  | none =>
    cases brokenSecond : second.broken with
    | some e => simp [andThen, brokenFirst, brokenSecond]
    | none => simp [andThen, brokenFirst, brokenSecond]

/-- Walks can be put together in two parts. -/
theorem sequence_append (first second : List Walk) :
    sequence (first ++ second) = (sequence first).andThen (sequence second) := by
  induction first with
  | nil => rfl
  | cons walk rest ih =>
    change walk.andThen (sequence (rest ++ second)) = (walk.andThen (sequence rest)).andThen _
    rw [ih, andThen_assoc]

/-- A course can be walked in two parts. -/
theorem ofCourse_append (first second : List Stretch) :
    ofCourse (first ++ second) = (ofCourse first).andThen (ofCourse second) := by
  rw [ofCourse, List.map_append, sequence_append]
  rfl

/-- A course starts with its first stretch. -/
theorem ofCourse_cons (s : Stretch) (rest : List Stretch) :
    ofCourse (s :: rest) = s.walk.andThen (ofCourse rest) :=
  rfl

/-- What is visited on a course is what its stretches visit, as far as it goes. -/
theorem visits_ofCourse (course : List Stretch) :
    (ofCourse course).visits <+: course.filterMap Stretch.visit? := by
  induction course with
  | nil => exact List.prefix_rfl
  | cons s rest ih =>
    have split : (s :: rest).filterMap Stretch.visit? =
        s.visit?.toList ++ rest.filterMap Stretch.visit? := by
      cases visited : s.visit? <;> simp [visited]
    rw [ofCourse_cons, split]
    unfold andThen
    split
    · exact List.prefix_append _ _
    · exact List.prefix_append_right_inj _ |>.mpr ih

/-- What is visited on a course is visited in one of its stretches. -/
theorem mem_ofCourse {course : List Stretch} {visit : Visit}
    (h : visit ∈ (ofCourse course).visits) : ∃ s ∈ course, s.visit? = some visit :=
  List.mem_filterMap.mp ((visits_ofCourse course).subset h)

/-- The candidates of a walk are some of those of its stretches. -/
theorem candidates_ofCourse (course : List Stretch) :
    (ofCourse course).candidates.Sublist (course.filterMap Stretch.candidate?) := by
  have some_ := (visits_ofCourse course).sublist.filterMap Visit.candidate?
  rwa [List.filterMap_filterMap] at some_

/-- A course of which no stretch is broken off is not broken off. -/
theorem ofCourse_broken {course : List Stretch} (whole : ∀ s ∈ course, s.broken = none) :
    (ofCourse course).broken = none := by
  induction course with
  | nil => rfl
  | cons s rest ih =>
    rw [ofCourse_cons, andThen_broken (whole s List.mem_cons_self)]
    exact ih fun t later => whole t (List.mem_cons_of_mem _ later)

end Walk

namespace Site

variable {site : Site} {directory : Path} {entries : List (String × Entry)}

/-- What is listed is the entries of the directory that the path leads to. -/
theorem located_of_entriesOf (h : site.entriesOf directory = .ok entries) :
    ∃ unordered, site.files.locate directory = .ok (.directory unordered) ∧
      entries.Perm unordered := by
  unfold entriesOf at h
  split at h
  next unordered found =>
    split at h
    · cases h
    · cases h
      exact ⟨unordered, found, List.mergeSort_perm _ _⟩
  · cases h
  · cases h

/-- If the entries of a directory ascend by name, they are listed as they are. -/
theorem entriesOf_of_ascending (found : site.files.locate directory = .ok (.directory entries))
    (open_ : site.obstacles.listing directory = none)
    (ascends : entries.Pairwise fun a b => (!decide (b.1 < a.1)) = true) :
    site.entriesOf directory = .ok entries := by
  rw [entriesOf, found, open_]
  exact congrArg Except.ok (List.mergeSort_of_pairwise ascends)

/-- What is listed in a well-formed file system has different names, and is well formed. -/
theorem entriesOf_wellFormed (tree : site.files.WellFormed)
    (h : site.entriesOf directory = .ok entries) : (Entry.directory entries).WellFormed := by
  obtain ⟨unordered, found, same⟩ := located_of_entriesOf h
  have wellFormed := site.files.locate_wellFormed tree found
  refine .directory ((same.map Prod.fst).nodup_iff.mpr wellFormed.distinct) ?_ ?_
  · exact fun e member => wellFormed.named e (same.mem_iff.mp member)
  · exact fun e member => wellFormed.children e (same.mem_iff.mp member)

/-- What is listed in a well-formed file system ascends by name. -/
theorem entriesOf_ascending (tree : site.files.WellFormed)
    (h : site.entriesOf directory = .ok entries) :
    entries.Pairwise fun first second => first.1 < second.1 := by
  unfold entriesOf at h
  split at h
  next unordered found =>
    split at h
    · cases h
    · cases h
      exact mergeSort_key_strict Prod.fst (site.files.locate_wellFormed tree found).distinct
  · cases h
  · cases h

/-- In a well-formed file system an entry of a directory that can be listed has a path without a null
character. -/
theorem hasNull_of_entriesOf (tree : site.files.WellFormed)
    (h : site.entriesOf directory = .ok entries) {e : String × Entry} (listed : e ∈ entries) :
    (directory.child e.1).hasNull = false := by
  obtain ⟨unordered, found, -⟩ := located_of_entriesOf h
  have noNull := ((entriesOf_wellFormed tree h).named e listed).noNull
  have outer := site.files.hasNull_of_locate found
  unfold Path.hasNull at outer ⊢
  rw [Path.child, List.any_append, outer, Bool.false_or]
  simpa using noNull

end Site

/-! ## Dealing with an entry -/

namespace WalkPlan

variable {plan : WalkPlan} {site : Site} {followLinks : Bool} {path p : Path} {entry : Entry}

/-- An ignored entry is passed over, and nothing is asked about it. -/
theorem meet_of_ignored (ignored : plan.ignores path = .ok true) :
    plan.meet site followLinks path entry = ({}, none) := by
  rw [meet, ignored]

/-- An entry is to be listed later if it is a directory that is not ignored. -/
theorem meet_directory_iff :
    (plan.meet site followLinks path entry).2 = some p ↔
      p = path ∧ plan.ignores path = .ok false ∧
        site.kindOf followLinks path entry = .directory := by
  unfold meet
  cases ignored : plan.ignores path with
  | error e => simp
  | ok answer =>
    cases answer with
    | true => simp
    | false =>
      cases kind : site.kindOf followLinks path entry with
      | directory => simp [eq_comm]
      | link => simp
      | unclear fault => simp
      | file =>
        simp only [reduceCtorEq, and_false, iff_false]
        split <;> simp

/-- An entry is a candidate if it is a file that is not ignored and is included. -/
theorem meet_candidate_iff :
    (plan.meet site followLinks path entry).1.candidate? = some p ↔
      p = path ∧ plan.ignores path = .ok false ∧
        site.kindOf followLinks path entry = .file ∧ plan.includes path = .ok true := by
  unfold meet Stretch.candidate?
  cases ignored : plan.ignores path with
  | error e => simp
  | ok answer =>
    cases answer with
    | true => simp
    | false =>
      cases kind : site.kindOf followLinks path entry with
      | directory => simp
      | link => simp
      | unclear fault => simp [Visit.candidate?]
      | file =>
        cases included : plan.includes path with
        | error e => simp
        | ok wanted => cases wanted <;> simp [Visit.candidate?, eq_comm]

/-- What an entry is a visit of is its path, which is not ignored, and no directory. -/
theorem meet_visit {visit : Visit}
    (h : (plan.meet site followLinks path entry).1.visit? = some visit) :
    visit.path = path ∧ plan.ignores path = .ok false ∧
      site.kindOf followLinks path entry ≠ .directory := by
  unfold meet at h
  split at h
  · cases h
  · cases h
  next kept =>
    dsimp only at h
    split at h
    · cases h
    · cases h
    next fault kind =>
      cases h
      exact ⟨rfl, kept, by simp [kind]⟩
    next kind =>
      split at h
      · cases h
      · cases h
      · cases h
        exact ⟨rfl, kept, by simp [kind]⟩

/-- All that is asked about an entry is what it is, and that only if it is not ignored. -/
theorem meet_asked {query : Query}
    (h : query ∈ (plan.meet site followLinks path entry).1.asked) :
    query = .kind path ∧ plan.ignores path = .ok false := by
  unfold meet at h
  split at h
  · cases h
  · cases h
  next kept =>
    refine ⟨?_, kept⟩
    dsimp only at h
    split at h
    · exact List.mem_singleton.mp h
    · exact List.mem_singleton.mp h
    · exact List.mem_singleton.mp h
    · split at h <;> exact List.mem_singleton.mp h

/-- A readable plan is not broken off at an entry. -/
theorem Readable.meet_broken (h : plan.Readable) :
    (plan.meet site followLinks path entry).1.broken = none := by
  rw [meet, h.ignores_eq]
  cases plan.keeps path with
  | false => rfl
  | true =>
    simp only [Bool.not_true]
    split
    · rfl
    · rfl
    · rfl
    · rw [h.includes_eq]
      cases plan.wants path <;> rfl

/-! ## Round by round -/

/-- What is done in a round: the directory is listed, and then its entries are dealt with. -/
theorem mem_round {s : Stretch} (h : s ∈ (plan.round site followLinks path).1) :
    (∃ visit, visit.path = path ∧ visit.candidate? = none ∧ s = .listing path visit) ∨
      ∃ entries, site.entriesOf path = .ok entries ∧ ∃ e ∈ entries,
        s = (plan.meet site followLinks (path.child e.1) e.2).1 := by
  unfold round at h
  split at h
  · exact Or.inl ⟨_, rfl, rfl, List.mem_singleton.mp h⟩
  next entries listed =>
    rcases List.mem_cons.mp h with rfl | dealt
    · exact Or.inl ⟨_, rfl, rfl, rfl⟩
    · rw [List.map_map] at dealt
      obtain ⟨e, member, rfl⟩ := List.mem_map.mp dealt
      exact Or.inr ⟨entries, listed, e, member, rfl⟩

/-- The candidates of a round are those among the entries. -/
theorem candidate_of_round_iff {candidate : Path} :
    candidate ∈ (plan.round site followLinks path).1.filterMap Stretch.candidate? ↔
      ∃ entries, site.entriesOf path = .ok entries ∧ ∃ e ∈ entries,
        (plan.meet site followLinks (path.child e.1) e.2).1.candidate? = some candidate := by
  unfold round
  cases listed : site.entriesOf path with
  | error fault => simp [Stretch.listing, Stretch.candidate?, Visit.candidate?]
  | ok entries => simp [Stretch.listing, Stretch.candidate?, Visit.candidate?]

/-- A readable plan is not broken off in a round. -/
theorem Readable.round_broken (h : plan.Readable) {s : Stretch}
    (member : s ∈ (plan.round site followLinks path).1) : s.broken = none := by
  obtain ⟨visit, -, -, rfl⟩ | ⟨entries, -, e, -, rfl⟩ := mem_round member
  · rfl
  · exact h.meet_broken

/-- The subdirectories of a directory are those among its entries that are not ignored. -/
theorem mem_subdirectories_iff {directory : Path} :
    directory ∈ (plan.round site followLinks path).2 ↔
      ∃ entries, site.entriesOf path = .ok entries ∧ ∃ e ∈ entries,
        directory = path.child e.1 ∧ plan.ignores (path.child e.1) = .ok false ∧
          site.kindOf followLinks (path.child e.1) e.2 = .directory := by
  unfold round
  cases listed : site.entriesOf path with
  | error fault => simp
  | ok entries =>
    simp only [List.mem_filterMap, List.mem_map, Except.ok.injEq, exists_eq_left']
    constructor
    · rintro ⟨-, ⟨e, member, rfl⟩, later⟩
      exact ⟨e, member, meet_directory_iff.mp later⟩
    · rintro ⟨e, member, leads⟩
      exact ⟨_, ⟨e, member, rfl⟩, meet_directory_iff.mpr leads⟩

end WalkPlan

namespace Exploration

variable {plan : WalkPlan} {site : Site} {followLinks : Bool} {x y : Exploration}

/-- Nothing is left to explore without a directory on the stack. -/
theorem explore_of_end (ends : x.next? plan site followLinks = none) :
    x.explore plan site followLinks = x := by
  rw [explore]
  split
  · rfl
  next goes => rw [ends] at goes; cases goes

/-- To explore is to go on exploring after a round. -/
theorem explore_of_next (goes : x.next? plan site followLinks = some y) :
    x.explore plan site followLinks = y.explore plan site followLinks := by
  rw [explore]
  split
  next ends => rw [ends] at goes; cases goes
  next z goes' =>
    rw [goes] at goes'
    rw [Option.some.inj goes']

/-- What holds at the start, and still holds after a round, holds at the end. -/
theorem explore_induction {motive : Exploration → Prop} (start : motive x)
    (step : ∀ x y, motive x → x.next? plan site followLinks = some y → motive y) :
    motive (x.explore plan site followLinks) := by
  induction x using explore.induct plan site followLinks with
  | case1 x ends =>
    rw [explore_of_end ends]
    exact start
  | case2 x y goes smaller ih =>
    rw [explore_of_next goes]
    exact ih (step x y start goes)

/-- Without a further round there is no directory on the stack. -/
theorem stack_of_end (ends : x.next? plan site followLinks = none) : x.stack = [] := by
  cases pending : x.stack with
  | nil => rfl
  | cons path stack =>
    unfold next? at ends
    rw [pending] at ends
    dsimp only at ends
    split at ends <;> cases ends

/-- At the end there is no further round. -/
theorem next_explore (x : Exploration) :
    (x.explore plan site followLinks).next? plan site followLinks = none := by
  induction x using explore.induct plan site followLinks with
  | case1 x ends => rwa [explore_of_end ends]
  | case2 x y goes smaller ih => rwa [explore_of_next goes]

end Exploration

namespace WalkPlan

variable {plan : WalkPlan} {site : Site} {followLinks : Bool} {p : Path}

/-- Whatever is done on a course, it is done in the round of some directory. What holds of the root,
and of the subdirectories of a directory if it holds of that, holds of this directory. -/
theorem stretch_of_round {motive : Path → Prop} (root : motive plan.root)
    (deeper : ∀ path, motive path → ∀ d ∈ (plan.round site followLinks path).2, motive d)
    {s : Stretch} (member : s ∈ plan.course site followLinks) :
    ∃ path, motive path ∧ s ∈ (plan.round site followLinks path).1 := by
  have whole := @Exploration.explore_induction plan site followLinks { stack := [plan.root] }
    (fun x => (∀ d ∈ x.stack, motive d) ∧
      ∀ s ∈ x.course, ∃ path, motive path ∧ s ∈ (plan.round site followLinks path).1)
    ⟨List.forall_mem_singleton.mpr root, fun s impossible => absurd impossible List.not_mem_nil⟩ ?_
  · exact whole.2 s member
  · rintro x y ⟨pending, done⟩ goes
    obtain ⟨path, stack, top, ⟨-, rfl⟩ | ⟨-, rfl⟩⟩ := Exploration.next_eq_some_iff.mp goes
    · exact ⟨fun d later => pending d (top ▸ List.mem_cons_of_mem path later), done⟩
    · have here := pending path (top ▸ List.mem_cons_self)
      constructor
      · intro d later
        rcases List.mem_append.mp later with new | old
        · exact deeper path here d new
        · exact pending d (top ▸ List.mem_cons_of_mem path old)
      · intro s member
        rcases List.mem_append.mp member with before | now
        · exact done s before
        · exact ⟨path, here, now⟩

/-- No stretch of a readable plan is broken off. -/
theorem Readable.course_broken (h : plan.Readable) {s : Stretch}
    (member : s ∈ plan.course site followLinks) : s.broken = none := by
  obtain ⟨path, -, done⟩ :=
    stretch_of_round (motive := fun _ => True) trivial (fun _ _ _ _ => trivial) member
  exact h.round_broken done

/-- A readable plan is not broken off. -/
theorem Readable.walk_broken (h : plan.Readable) (site : Site) (followLinks : Bool) :
    (plan.walk site followLinks).broken = none :=
  Walk.ofCourse_broken fun _ member => h.course_broken member

/-- What a walk visits is a directory or an entry of one that it lists. -/
theorem visit_of_round {motive : Path → Prop} (root : motive plan.root)
    (deeper : ∀ path, motive path → ∀ d ∈ (plan.round site followLinks path).2, motive d)
    {visit : Visit} (visited : visit ∈ (plan.walk site followLinks).visits) :
    ∃ path, motive path ∧ (visit.path = path ∧ visit.candidate? = none ∨
      ∃ entries, site.entriesOf path = .ok entries ∧ ∃ e ∈ entries,
        (plan.meet site followLinks (path.child e.1) e.2).1.visit? = some visit) := by
  obtain ⟨s, member, own⟩ := Walk.mem_ofCourse visited
  obtain ⟨path, here, done⟩ := stretch_of_round root deeper member
  obtain ⟨listing, same, none_, rfl⟩ | ⟨entries, listed, e, among, rfl⟩ := mem_round done
  · cases own
    exact ⟨path, here, Or.inl ⟨same, none_⟩⟩
  · exact ⟨path, here, Or.inr ⟨entries, listed, e, among, own⟩⟩

/-- In a well-formed file system the subdirectories of what lies in the root lie in it. -/
theorem within_of_subdirectory (tree : site.files.WellFormed) {root path directory : Path}
    (within : path.Within root) (h : directory ∈ (plan.round site followLinks path).2) :
    directory.Within root := by
  obtain ⟨entries, listed, e, among, rfl, -⟩ := mem_subdirectories_iff.mp h
  exact Or.inr (within.child ((site.entriesOf_wellFormed tree listed).valid e among))

/-- In a well-formed file system every candidate lies beneath the root. -/
theorem walk_beneath (tree : site.files.WellFormed)
    (h : .candidate p ∈ (plan.walk site followLinks).visits) : p.Beneath plan.root := by
  obtain ⟨path, within, ⟨-, none_⟩ | ⟨entries, listed, e, among, own⟩⟩ :=
    visit_of_round (motive := (·.Within plan.root)) (Or.inl rfl)
      (fun path within d later => within_of_subdirectory tree within later) h
  · cases none_
  · have same : p = path.child e.1 := (meet_visit own).1
    rw [same]
    exact within.child ((site.entriesOf_wellFormed tree listed).valid e among)

/-- In a well-formed file system no candidate has a null character in its path. -/
theorem hasNull_of_candidate (tree : site.files.WellFormed)
    (h : .candidate p ∈ (plan.walk site followLinks).visits) : p.hasNull = false := by
  obtain ⟨path, -, ⟨-, none_⟩ | ⟨entries, listed, e, among, own⟩⟩ :=
    visit_of_round (motive := fun _ => True) trivial (fun _ _ _ _ => trivial) h
  · cases none_
  · have same : p = path.child e.1 := (meet_visit own).1
    rw [same]
    exact site.hasNull_of_entriesOf tree listed among

end WalkPlan

end DocGraph
