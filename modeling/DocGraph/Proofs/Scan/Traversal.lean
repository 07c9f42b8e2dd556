import DocGraph.Proofs.Scan.Descent

/-!
# What a walk comes to, and in which order

Where links are passed over, a walk goes down. `WalkPlan.Comes` says of a chain of names from a
directory that the walk comes to the file at its end: on the way down each directory can be listed
and is no link, nothing is ignored, and the file is included. The candidates of the walk are the ends
of exactly these chains.

The candidates follow `Before`: the files of a directory by name, then what is in its subdirectories,
these by name as well. And whatever a walk does, it does at the end of a chain on which nothing is
ignored.
-/

set_option autoImplicit false

namespace DocGraph

/-- The order of files below one directory, given by the chains of names that lead to them. -/
inductive Before : List String → List String → Prop where
  /-- Files of one directory go by name. -/
  | files {first second : String} (h : first < second) : Before [first] [second]
  /-- A file goes before what is in a subdirectory. -/
  | fileFirst {first second : String} {rest : List String} (deeper : rest ≠ []) :
      Before [first] (second :: rest)
  /-- Subdirectories go by name. -/
  | directories {first second : String} {left right : List String} (deep : left ≠ [])
      (deeper : right ≠ []) (h : first < second) : Before (first :: left) (second :: right)
  /-- Within a subdirectory the same order goes on. -/
  | inside {name : String} {left right : List String} (h : Before left right) :
      Before (name :: left) (name :: right)

/-- No chain is before itself. -/
theorem Before.ne {first second : List String} (h : Before first second) : first ≠ second := by
  induction h with
  | files less => simpa using ne_of_lt less
  | fileFirst deeper =>
    intro same
    exact deeper (List.cons.inj same).2.symm
  | directories deep deeper less =>
    intro same
    exact ne_of_lt less (List.cons.inj same).1
  | inside h ih =>
    intro same
    exact ih (List.cons.inj same).2

/-! ## Along a chain of names -/

namespace Path

/-- Of two paths below a root, the one is before the other in the order of files. -/
def Precedes (root one other : Path) : Prop :=
  ∃ first second, one = root.below first ∧ other = root.below second ∧ Before first second

/-- No path precedes itself. -/
theorem Precedes.ne {root one other : Path} (h : root.Precedes one other) : one ≠ other := by
  obtain ⟨first, second, rfl, rfl, before⟩ := h
  intro same
  exact before.ne (below_injective root same)

variable {path : Path} {name : String} {names : List String} {holds : Path → Prop}

/-- Something holds of each path on the way along a chain of names, the end included and the start
not. -/
def EachBelow (path : Path) (names : List String) (holds : Path → Prop) : Prop :=
  ∀ chain, chain <+: names → chain ≠ [] → holds (path.below chain)

/-- Something holds of each path on the way along a chain of names, the start included and the end
not. -/
def EachAbove (path : Path) (names : List String) (holds : Path → Prop) : Prop :=
  ∀ chain, chain <+: names → chain ≠ names → holds (path.below chain)

/-- There is nothing below a path on the way along no names. -/
theorem eachBelow_nil (path : Path) (holds : Path → Prop) : path.EachBelow [] holds :=
  fun _ initial nonempty => absurd (List.prefix_nil.mp initial) nonempty

/-- What is below a path on the way is the first child and what is below that. -/
theorem eachBelow_cons :
    path.EachBelow (name :: names) holds ↔
      holds (path.child name) ∧ (path.child name).EachBelow names holds := by
  constructor
  · intro h
    constructor
    · exact h [name] (List.cons_prefix_cons.mpr ⟨rfl, List.nil_prefix⟩) (List.cons_ne_nil _ _)
    · intro chain initial nonempty
      rw [child_below]
      exact h _ (List.cons_prefix_cons.mpr ⟨rfl, initial⟩) (List.cons_ne_nil _ _)
  · rintro ⟨here, deeper⟩ chain initial nonempty
    cases chain with
    | nil => exact absurd rfl nonempty
    | cons first rest =>
      obtain ⟨rfl, within⟩ := List.cons_prefix_cons.mp initial
      by_cases last : rest = []
      · rw [last]
        exact here
      · rw [← child_below]
        exact deeper rest within last

/-- The way goes on to a child of its end. -/
theorem EachBelow.snoc (h : path.EachBelow names holds)
    (last : holds ((path.below names).child name)) : path.EachBelow (names ++ [name]) holds := by
  intro chain initial nonempty
  rcases List.prefix_concat_iff.mp initial with rfl | before
  · rwa [child_eq_below, below_below] at last
  · exact h chain before nonempty

/-- There is nothing above the end on the way along no names. -/
theorem eachAbove_nil (path : Path) (holds : Path → Prop) : path.EachAbove [] holds :=
  fun _ initial shorter => absurd (List.prefix_nil.mp initial) shorter

/-- What is above the end on the way is the path and what is above the end on the way from the first
child. -/
theorem eachAbove_cons :
    path.EachAbove (name :: names) holds ↔
      holds path ∧ (path.child name).EachAbove names holds := by
  constructor
  · intro h
    constructor
    · have here := h [] List.nil_prefix (List.cons_ne_nil _ _).symm
      rwa [below_nil] at here
    · intro chain initial shorter
      rw [child_below]
      refine h _ (List.cons_prefix_cons.mpr ⟨rfl, initial⟩) fun same => ?_
      exact shorter (List.cons.inj same).2
  · rintro ⟨here, deeper⟩ chain initial shorter
    cases chain with
    | nil => rwa [below_nil]
    | cons first rest =>
      obtain ⟨rfl, within⟩ := List.cons_prefix_cons.mp initial
      rw [← child_below]
      exact deeper rest within fun same => shorter (by rw [same])

end Path

namespace Walk

/-- What is visited on a course that is not broken off is what its stretches visit. -/
theorem visits_ofCourse_eq {course : List Stretch} (whole : ∀ s ∈ course, s.broken = none) :
    (ofCourse course).visits = course.filterMap Stretch.visit? := by
  induction course with
  | nil => rfl
  | cons s rest ih =>
    have here : s.walk.broken = none := whole s List.mem_cons_self
    rw [ofCourse_cons, andThen_visits here, ih fun t later => whole t (List.mem_cons_of_mem _ later)]
    cases visited : s.visit? <;> simp [Stretch.walk, visited]

/-- What walks visit one after the other, if none of them is broken off. -/
theorem visits_sequence {walks : List Walk} (whole : ∀ walk ∈ walks, walk.broken = none) :
    (sequence walks).visits = walks.flatMap Walk.visits ∧ (sequence walks).broken = none := by
  induction walks with
  | nil => exact ⟨rfl, rfl⟩
  | cons walk rest ih =>
    have here := whole walk List.mem_cons_self
    obtain ⟨visits, broken⟩ := ih fun w later => whole w (List.mem_cons_of_mem _ later)
    change (walk.andThen (sequence rest)).visits = _ ∧ (walk.andThen (sequence rest)).broken = none
    rw [andThen_visits here, andThen_broken here, visits, List.flatMap_cons]
    exact ⟨rfl, broken⟩

end Walk

namespace WalkPlan

/-- Nothing on the way along a chain of names from a path is ignored, the end included and the
start not. -/
def KeptAlong (plan : WalkPlan) (path : Path) (names : List String) : Prop :=
  path.EachBelow names fun p => plan.ignores p = .ok false

/-- A walk that passes links over comes from a directory to the file at the end of a chain of
names. -/
inductive Comes (plan : WalkPlan) (site : Site) : Path → List String → Prop where
  /-- The file is in the directory. -/
  | file {path : Path} {entries : List (String × Entry)} {e : String × Entry}
      (listed : site.entriesOf path = .ok entries) (member : e ∈ entries)
      (kept : plan.ignores (path.child e.1) = .ok false)
      (isFile : site.kindOf false (path.child e.1) e.2 = .file)
      (included : plan.includes (path.child e.1) = .ok true) : Comes plan site path [e.1]
  /-- The file is below a subdirectory. -/
  | deeper {path : Path} {entries : List (String × Entry)} {e : String × Entry}
      {names : List String} (listed : site.entriesOf path = .ok entries) (member : e ∈ entries)
      (kept : plan.ignores (path.child e.1) = .ok false)
      (isDirectory : site.kindOf false (path.child e.1) e.2 = .directory)
      (rest : Comes plan site (path.child e.1) names) : Comes plan site path (e.1 :: names)

variable {plan : WalkPlan} {site : Site} {path q : Path} {names : List String}

/-- There is a file at the end, so there is at least one name. -/
theorem Comes.nonempty (h : plan.Comes site path names) : names ≠ [] := by
  cases h <;> exact List.cons_ne_nil _ _

/-! ## What a walk comes to -/

/-- A readable plan is not broken off on the way down. -/
theorem Readable.descend_broken (h : plan.Readable) (path : Path) :
    (plan.descend site path).broken = none := by
  induction path using descent_induction plan site with
  | step path ih =>
    rw [descend_eq, Walk.andThen_broken]
    · refine (Walk.visits_sequence fun walk below => ?_).2
      obtain ⟨d, later, rfl⟩ := List.mem_map.mp below
      exact ih d later
    · exact Walk.ofCourse_broken fun s member => h.round_broken member

/-- What a readable plan visits on the way down: what it visits in the directory, and then what it
visits on the way down from each of the subdirectories. -/
theorem Readable.visits_descend (h : plan.Readable) (path : Path) :
    (plan.descend site path).visits =
      (plan.round site false path).1.filterMap Stretch.visit? ++
        (plan.round site false path).2.flatMap fun d => (plan.descend site d).visits := by
  have here : ∀ s ∈ (plan.round site false path).1, s.broken = none :=
    fun s member => h.round_broken member
  rw [descend_eq, Walk.andThen_visits (Walk.ofCourse_broken here), Walk.visits_ofCourse_eq here,
    (Walk.visits_sequence _).1, List.flatMap_map]
  intro walk below
  obtain ⟨d, -, rfl⟩ := List.mem_map.mp below
  exact h.descend_broken d

/-- The candidates of a readable plan on the way down. -/
theorem Readable.candidates_descend (h : plan.Readable) (path : Path) :
    (plan.descend site path).candidates =
      (plan.round site false path).1.filterMap Stretch.candidate? ++
        (plan.round site false path).2.flatMap fun d => (plan.descend site d).candidates := by
  rw [Walk.candidates, h.visits_descend, List.filterMap_append, List.filterMap_filterMap,
    List.filterMap_flatMap]
  rfl

/-- The candidates of a readable plan on the way down from a directory that can be listed. -/
theorem Readable.candidates_of_listed (h : plan.Readable) {entries : List (String × Entry)}
    (listed : site.entriesOf path = .ok entries) :
    (plan.descend site path).candidates =
      entries.filterMap
          (fun e => (plan.meet site false (path.child e.1) e.2).1.candidate?) ++
        (entries.filterMap fun e => (plan.meet site false (path.child e.1) e.2).2).flatMap
          fun d => (plan.descend site d).candidates := by
  rw [h.candidates_descend, round, listed]
  dsimp only
  rw [List.filterMap_cons_none rfl, List.map_map, List.filterMap_map, List.filterMap_map]
  rfl

/-- A readable plan comes to a path on the way down exactly if a chain of names leads there. -/
theorem Readable.mem_descend_iff (h : plan.Readable) (path : Path) :
    q ∈ (plan.descend site path).candidates ↔
      ∃ names, plan.Comes site path names ∧ q = path.below names := by
  induction path using descent_induction plan site with
  | step path ih =>
    rw [h.candidates_descend, List.mem_append, List.mem_flatMap, candidate_of_round_iff]
    constructor
    · rintro (⟨entries, listed, e, member, own⟩ | ⟨d, later, below⟩)
      · obtain ⟨rfl, kept, isFile, included⟩ := meet_candidate_iff.mp own
        exact ⟨[e.1], .file listed member kept isFile included, rfl⟩
      · obtain ⟨names, comes, rfl⟩ := (ih d later).mp below
        obtain ⟨entries, listed, e, member, rfl, kept, leads⟩ := mem_subdirectories_iff.mp later
        exact ⟨e.1 :: names, .deeper listed member kept leads comes, Path.child_below _ _ _⟩
    · rintro ⟨names, comes, rfl⟩
      cases comes with
      | file listed member kept isFile included =>
        exact Or.inl ⟨_, listed, _, member, meet_candidate_iff.mpr ⟨rfl, kept, isFile, included⟩⟩
      | deeper listed member kept leads rest =>
        have later := mem_subdirectories_iff.mpr ⟨_, listed, _, member, rfl, kept, leads⟩
        exact Or.inr ⟨_, later, (ih _ later).mpr ⟨_, rest, (Path.child_below _ _ _).symm⟩⟩

/-- A readable plan comes to the files at the ends of the chains that lead there from the root. -/
theorem Readable.mem_walk_iff (h : plan.Readable) :
    q ∈ (plan.walk site false).candidates ↔
      ∃ names, plan.Comes site plan.root names ∧ q = plan.root.below names := by
  rw [walk_eq_descend, h.mem_descend_iff]

/-- What is visited from a directory of which every entry is a candidate. -/
theorem Readable.walk_of_files (h : plan.Readable) {entries : List (String × Entry)}
    (listed : site.entriesOf plan.root = .ok entries)
    (come : ∀ e ∈ entries, plan.keeps (plan.root.child e.1) = true ∧
      site.kindOf false (plan.root.child e.1) e.2 = .file ∧
      plan.wants (plan.root.child e.1) = true) :
    (plan.walk site false).visits =
      .listed plan.root :: entries.map fun e => .candidate (plan.root.child e.1) := by
  have noneBelow : (plan.round site false plan.root).2 = [] := by
    refine List.eq_nil_iff_forall_not_mem.mpr fun d later => ?_
    obtain ⟨others, listed', e, member, -, -, leads⟩ := mem_subdirectories_iff.mp later
    obtain rfl := Except.ok.inj (listed.symm.trans listed')
    rw [(come e member).2.1] at leads
    cases leads
  have met : ∀ e ∈ entries, (plan.meet site false (plan.root.child e.1) e.2).1.visit? =
      some (.candidate (plan.root.child e.1)) := by
    intro e member
    obtain ⟨kept, isFile, included⟩ := come e member
    simp only [meet, (keeps_iff _).mp kept, isFile, (wants_iff _).mp included]
  rw [walk_eq_descend, h.visits_descend, noneBelow, round, listed]
  change Visit.listed plan.root :: List.filterMap Stretch.visit? _ ++ [] = _
  rw [List.append_nil, List.map_map, List.filterMap_map, ← List.filterMap_eq_map]
  congr 1
  exact List.filterMap_congr met

/-- A path lies below the root by a chain of names on which nothing is ignored. -/
def Spares (plan : WalkPlan) (path : Path) : Prop :=
  ∃ names, path = plan.root.below names ∧ plan.KeptAlong plan.root names

/-- A child that is not ignored is spared if its directory is. -/
theorem Spares.child (h : plan.Spares path) {name : String}
    (kept : plan.ignores (path.child name) = .ok false) : plan.Spares (path.child name) := by
  obtain ⟨names, rfl, along⟩ := h
  exact ⟨names ++ [name], Path.below_below _ _ _, along.snoc kept⟩

/-- Whatever a walk asks for or visits, nothing on the way to it is ignored. -/
theorem course_spares {followLinks : Bool} {s : Stretch}
    (member : s ∈ plan.course site followLinks) :
    (∀ query ∈ s.asked, plan.Spares query.path) ∧
      ∀ visit, s.visit? = some visit → plan.Spares visit.path := by
  have deeper : ∀ path, plan.Spares path → ∀ d ∈ (plan.round site followLinks path).2,
      plan.Spares d := by
    intro path spared d later
    obtain ⟨entries, -, e, -, rfl, kept, -⟩ := mem_subdirectories_iff.mp later
    exact spared.child kept
  obtain ⟨path, spared, done⟩ := stretch_of_round
    ⟨[], (Path.below_nil _).symm, Path.eachBelow_nil _ _⟩ deeper member
  obtain ⟨visit, own, -, rfl⟩ | ⟨entries, -, e, -, rfl⟩ := mem_round done
  · refine ⟨List.forall_mem_singleton.mpr spared, ?_⟩
    rintro _ ⟨⟩
    rwa [own]
  · constructor
    · intro query asked
      obtain ⟨rfl, kept⟩ := meet_asked asked
      exact spared.child kept
    · intro visit visited
      obtain ⟨own, kept, -⟩ := meet_visit visited
      rw [own]
      exact spared.child kept

/-! ## In the order of names -/

/-- The candidates of a directory go by name. -/
theorem candidates_of_round_pairwise (tree : site.files.WellFormed) (path : Path) :
    ((plan.round site false path).1.filterMap Stretch.candidate?).Pairwise path.Precedes := by
  unfold round
  cases listed : site.entriesOf path with
  | error fault => exact List.Pairwise.nil
  | ok entries =>
    dsimp only
    rw [List.filterMap_cons_none rfl, List.map_map, List.filterMap_map, List.pairwise_filterMap]
    refine (site.entriesOf_ascending tree listed).imp fun {one other} less p left q right => ?_
    exact ⟨[one.1], [other.1], (meet_candidate_iff.mp left).1, (meet_candidate_iff.mp right).1,
      .files less⟩

/-- The subdirectories of a directory go by name. -/
theorem subdirectories_pairwise (tree : site.files.WellFormed) (path : Path) :
    (plan.round site false path).2.Pairwise fun d d' =>
      ∃ name name', d = path.child name ∧ d' = path.child name' ∧ name < name' := by
  unfold round
  cases listed : site.entriesOf path with
  | error fault => exact List.Pairwise.nil
  | ok entries =>
    dsimp only
    rw [List.filterMap_map, List.pairwise_filterMap]
    refine (site.entriesOf_ascending tree listed).imp fun {one other} less p left q right => ?_
    exact ⟨one.1, other.1, (meet_directory_iff.mp left).1, (meet_directory_iff.mp right).1, less⟩

/-- The candidates on the way down follow the order of files. -/
theorem Readable.candidates_pairwise (h : plan.Readable) (tree : site.files.WellFormed)
    (path : Path) : (plan.descend site path).candidates.Pairwise path.Precedes := by
  induction path using descent_induction plan site with
  | step path ih =>
    have below : ∀ {name : String} {q : Path},
        q ∈ (plan.descend site (path.child name)).candidates →
        ∃ rest, rest ≠ [] ∧ q = path.below (name :: rest) := by
      intro name q member
      obtain ⟨rest, comes, rfl⟩ := (h.mem_descend_iff _).mp member
      exact ⟨rest, comes.nonempty, Path.child_below _ _ _⟩
    rw [h.candidates_descend, List.pairwise_append, List.pairwise_flatMap]
    refine ⟨candidates_of_round_pairwise tree path, ⟨?_, ?_⟩, ?_⟩
    -- Two files in one subdirectory.
    · intro d later
      obtain ⟨-, -, e, -, rfl, -⟩ := mem_subdirectories_iff.mp later
      refine (ih _ later).imp ?_
      rintro one other ⟨first, second, rfl, rfl, before⟩
      exact ⟨e.1 :: first, e.1 :: second, Path.child_below _ _ _, Path.child_below _ _ _,
        .inside before⟩
    -- Two files in different subdirectories.
    · refine (subdirectories_pairwise tree path).imp ?_
      rintro _ _ ⟨name, name', rfl, rfl, less⟩ p left q right
      obtain ⟨first, deep, rfl⟩ := below left
      obtain ⟨second, deeper, rfl⟩ := below right
      exact ⟨_, _, rfl, rfl, .directories deep deeper less⟩
    -- A file of the directory and one in a subdirectory.
    · intro p left q right
      obtain ⟨-, -, file, -, own⟩ := candidate_of_round_iff.mp left
      obtain ⟨d, later, within⟩ := List.mem_flatMap.mp right
      obtain ⟨-, -, e, -, rfl, -⟩ := mem_subdirectories_iff.mp later
      obtain ⟨rest, deep, rfl⟩ := below within
      exact ⟨[file.1], e.1 :: rest, (meet_candidate_iff.mp own).1, rfl, .fileFirst deep⟩

/-- A readable plan comes to files in their order. -/
theorem Readable.walk_pairwise (h : plan.Readable) (tree : site.files.WellFormed) :
    (plan.walk site false).candidates.Pairwise plan.root.Precedes := by
  rw [walk_eq_descend]
  exact h.candidates_pairwise tree plan.root

end WalkPlan

end DocGraph
