import DocGraph.Proofs.Rules.Matching
import DocGraph.Proofs.Scan.Course
import DocGraph.Proofs.Scan.Planned
import DocGraph.Proofs.Text.Occurrence

/-!
# The files that a scan selects

`Site.Selects` says, without a walk, of which files a scan returns which records. `scan_selects`
says that a scan without workers and without links, unless it is given up, returns exactly these
records, each once and in the order of files. It also says that the scan neither lists a directory
nor looks at a file if that, or anything on the way to it, is ignored.

That a file qualifies for a record does not mean that it has one. The file system must also tell of
everything on the way to it what it is, and its last modification must have a date.
-/

set_option autoImplicit false

namespace DocGraph

/-- A directory can be listed: the path leads to one, and the file system does not refuse. -/
def Site.Lists (site : Site) (directory : Path) : Prop :=
  site.obstacles.listing directory = none ∧
    ∃ entries, site.files.locate directory = .ok (.directory entries)

/-- The file at the end of a chain of names from the root qualifies for a record.

The chain leads through real directories, each of which can be listed, to a file, and nothing on it
is ignored. The file matches a pattern, unless there are none. It can be looked at and searched for a
block, is in a language that is known, and is not too large. -/
structure Site.Qualifies (site : Site) (criteria : Site.Criteria) (plan : WalkPlan)
    (names : List String) (file : FileStatus) : Prop where
  nonempty : names ≠ []
  held : ∃ top, site.files.locate plan.root = .ok top ∧
    top.Holds names (.file file.content file.modified)
  kept : plan.KeptAlong plan.root names
  listed : plan.root.EachAbove names site.Lists
  included : plan.includePatterns = [] ∨
    ∃ pattern ∈ plan.includePatterns, Glob.Matches pattern (plan.relative (plan.root.below names))
  found : ∃ status, site.status (plan.root.below names) = .ok status
  known : criteria.registry.detect (plan.root.below names).toString ≠ unknownLanguage
  small : criteria.maxFileSize = 0 ∨ (file.content.length : Int) ≤ criteria.maxFileSize
  searched : site.obstacles.reading (plan.root.below names) = none

/-- A scan selects the file at the end of a chain of names from the root, with a record: it qualifies,
it can be told of everything on the chain what it is, and the record says what there is to say of the
file. Its date is that of the last modification, so a file that was modified at a time without a date
has no record. -/
structure Site.Selects (site : Site) (criteria : Site.Criteria) (plan : WalkPlan)
    (names : List String) (file : FileStatus) (record : FileRecord) : Prop
    extends site.Qualifies criteria plan names file where
  told : plan.root.EachBelow names fun p => site.obstacles.kind p = none
  path : record.path = plan.root.below names
  language : record.language = criteria.registry.detect (plan.root.below names).toString
  size : record.size = file.content.length
  hasBlock : record.hasBlock = true ↔ Block.startMarker.toUTF8.toList <:+: file.content
  modified : Timestamp.ofNanoseconds file.modified = .ok record.modified

namespace Site

variable {site : Site} {registry : Registry} {criteria : Criteria} {plan : WalkPlan}
  {o : ScanOptions} {path : Path} {entry top current : Entry} {front names : List String}

/-- A directory can be listed exactly if it has entries to deal with. -/
theorem lists_iff : site.Lists path ↔ ∃ entries, site.entriesOf path = .ok entries := by
  unfold Lists entriesOf
  cases site.files.locate path with
  | error fault => simp
  | ok found =>
    cases found with
    | directory entries => cases site.obstacles.listing path <;> simp
    | file content modified => simp
    | link target => simp

/-- Where links are passed over, a file is what is known to be one. -/
theorem kindOf_eq_file_iff :
    site.kindOf false path entry = .file ↔
      site.obstacles.kind path = none ∧ ∃ content modified, entry = .file content modified := by
  unfold kindOf
  cases site.obstacles.kind path with
  | some fault => simp
  | none => cases entry <;> simp

/-- Where links are passed over, a directory is what is known to be one. -/
theorem kindOf_eq_directory_iff :
    site.kindOf false path entry = .directory ↔
      site.obstacles.kind path = none ∧ ∃ entries, entry = .directory entries := by
  unfold kindOf
  cases site.obstacles.kind path with
  | some fault => simp
  | none => cases entry <;> simp

/-! ## What a walk comes to, in the tree -/

/-- What is listed at the end of a chain of names through real directories is what stands there. -/
theorem listed_below (tree : site.files.WellFormed) (start : site.files.locate plan.root = .ok top)
    (here : top.Holds front current) (notLink : ∀ target, current ≠ .link target)
    {entries : List (String × Entry)}
    (listed : site.entriesOf (plan.root.below front) = .ok entries) :
    ∃ unordered, current = .directory unordered ∧ entries.Perm unordered := by
  obtain ⟨unordered, located, same⟩ := located_of_entriesOf listed
  exact ⟨unordered, (site.files.locate_below tree start here notLink located).symm, same⟩

/-- A walk comes to what stands in the tree at the end of a chain. -/
theorem holds_of_comes (tree : site.files.WellFormed)
    (start : site.files.locate plan.root = .ok top) (comes : plan.Comes site path names)
    (below : path = plan.root.below front) (here : top.Holds front current)
    (notLink : ∀ target, current ≠ .link target) :
    ∃ content modified, current.Holds names (.file content modified) := by
  induction comes generalizing front current with
  | file listed member kept isFile included =>
    subst below
    obtain ⟨unordered, rfl, same⟩ := listed_below tree start here notLink listed
    obtain ⟨-, content, modified, own⟩ := kindOf_eq_file_iff.mp isFile
    exact ⟨content, modified, .down (same.mem_iff.mp member) (own ▸ .here _)⟩
  | @deeper _ entries e names listed member kept isDirectory rest ih =>
    subst below
    obtain ⟨unordered, rfl, same⟩ := listed_below tree start here notLink listed
    obtain ⟨-, inside, own⟩ := kindOf_eq_directory_iff.mp isDirectory
    have listedBelow := same.mem_iff.mp member
    obtain ⟨content, modified, held⟩ := ih (Path.below_below _ _ _) (here.snoc listedBelow)
      fun target link => by rw [own] at link; cases link
    exact ⟨content, modified, .down listedBelow held⟩

/-- On the way to what a walk comes to nothing is ignored, it is known of everything what it is, and
each directory can be listed; and the file is included. -/
theorem along_of_comes (comes : plan.Comes site path names) :
    plan.KeptAlong path names ∧ (path.EachBelow names fun p => site.obstacles.kind p = none) ∧
      path.EachAbove names site.Lists ∧ plan.includes (path.below names) = .ok true := by
  induction comes with
  | file listed member kept isFile included =>
    exact ⟨Path.eachBelow_cons.mpr ⟨kept, Path.eachBelow_nil _ _⟩,
      Path.eachBelow_cons.mpr ⟨(kindOf_eq_file_iff.mp isFile).1, Path.eachBelow_nil _ _⟩,
      Path.eachAbove_cons.mpr ⟨lists_iff.mpr ⟨_, listed⟩, Path.eachAbove_nil _ _⟩, included⟩
  | deeper listed member kept isDirectory rest ih =>
    obtain ⟨keptBelow, toldBelow, listedBelow, included⟩ := ih
    rw [Path.child_below] at included
    exact ⟨Path.eachBelow_cons.mpr ⟨kept, keptBelow⟩,
      Path.eachBelow_cons.mpr ⟨(kindOf_eq_directory_iff.mp isDirectory).1, toldBelow⟩,
      Path.eachAbove_cons.mpr ⟨lists_iff.mpr ⟨_, listed⟩, listedBelow⟩, included⟩

/-- A walk comes to what stands in the tree at the end of a chain on which nothing is in the way. -/
theorem comes_of_holds (tree : site.files.WellFormed)
    (start : site.files.locate plan.root = .ok top) {content : List UInt8} {modified : Int}
    (here : top.Holds front current) (held : current.Holds names (.file content modified))
    (nonempty : names ≠ []) (kept : plan.KeptAlong (plan.root.below front) names)
    (told : (plan.root.below front).EachBelow names fun p => site.obstacles.kind p = none)
    (listed : (plan.root.below front).EachAbove names site.Lists)
    (included : plan.includes ((plan.root.below front).below names) = .ok true) :
    plan.Comes site (plan.root.below front) names := by
  generalize last : Entry.file content modified = found at held
  induction held generalizing front with
  | here => exact absurd rfl nonempty
  | @down entries name child found rest member held ih =>
    obtain ⟨keptHere, keptBelow⟩ := Path.eachBelow_cons.mp kept
    obtain ⟨toldHere, toldBelow⟩ := Path.eachBelow_cons.mp told
    obtain ⟨listedHere, listedBelow⟩ := Path.eachAbove_cons.mp listed
    obtain ⟨sorted, ordered⟩ := lists_iff.mp listedHere
    obtain ⟨unordered, own, same⟩ := listed_below tree start here (by simp) ordered
    cases own
    have among : (name, child) ∈ sorted := same.mem_iff.mpr member
    cases held with
    | here =>
      have isFile := kindOf_eq_file_iff.mpr ⟨toldHere, content, modified, last.symm⟩
      exact .file ordered among keptHere isFile included
    | @down inside _ _ _ _ member' held' =>
      have below : (plan.root.below front).child name = plan.root.below (front ++ [name]) :=
        Path.below_below _ _ _
      rw [← Path.child_below, below] at included
      rw [below] at keptBelow toldBelow listedBelow
      have comes := ih (here.snoc member) (List.cons_ne_nil _ _) keptBelow toldBelow listedBelow
        included last
      rw [← below] at comes
      exact .deeper ordered among keptHere (kindOf_eq_directory_iff.mpr ⟨toldHere, inside, rfl⟩) comes

/-- A walk that passes links over comes to the files of the tree at the ends of the chains on which
nothing is in the way. -/
theorem comes_iff (tree : site.files.WellFormed) :
    plan.Comes site plan.root names ↔
      names ≠ [] ∧ (∃ top content modified, site.files.locate plan.root = .ok top ∧
        top.Holds names (.file content modified)) ∧ plan.KeptAlong plan.root names ∧
      (plan.root.EachBelow names fun p => site.obstacles.kind p = none) ∧
      plan.root.EachAbove names site.Lists ∧ plan.includes (plan.root.below names) = .ok true := by
  constructor
  · intro comes
    have along := along_of_comes comes
    obtain ⟨-, entries, located⟩ := along.2.2.1 [] List.nil_prefix comes.nonempty.symm
    rw [Path.below_nil] at located
    obtain ⟨content, modified, held⟩ := holds_of_comes tree located comes
      (Path.below_nil _).symm (.here _) (by simp)
    exact ⟨comes.nonempty, ⟨_, content, modified, located, held⟩, along⟩
  · rintro ⟨nonempty, ⟨top, content, modified, start, held⟩, kept, told, listed, included⟩
    rw [← Path.below_nil plan.root] at kept told listed included ⊢
    exact comes_of_holds tree start (.here top) held nonempty kept told listed included

/-! ## What is found out about it -/

/-- A file that can be read has a block if the mark occurs in its bytes. -/
theorem detect_eq_ok_iff {content : List UInt8} {hasBlock : Bool} :
    site.detect path content = .ok hasBlock ↔
      site.obstacles.reading path = none ∧
        (hasBlock = true ↔ Block.startMarker.toUTF8.toList <:+: content) := by
  unfold detect hasStartMark
  rw [← Text.occursIn_iff_isInfix, ← Bool.eq_iff_iff]
  cases site.obstacles.reading path with
  | some failure => simp
  | none => simp [eq_comm]

/-- What is found at the end of a chain of names through real directories is what stands there. -/
theorem status_below (tree : site.files.WellFormed) {content : List UInt8} {modified : Int}
    {status : FileStatus} (start : site.files.locate plan.root = .ok top)
    (held : top.Holds names (.file content modified))
    (found : site.status (plan.root.below names) = .ok status) : status = ⟨content, modified⟩ := by
  unfold Site.status at found
  split at found
  · cases found
  · split at found
    next located =>
      have same := site.files.locate_below tree start held (by simp) located
      cases same
      cases found
      rfl
    · cases found
    · cases found

/-- A record is kept of a file that can be looked at, is admitted, can be read, and was modified at a
time that has a date. -/
theorem recorded_iff {record : FileRecord} :
    .kept record ∈ site.inspect criteria path ↔
      ∃ file, site.status path = .ok file ∧
        (criteria.registry.detect path.toString ≠ unknownLanguage ∧
          (criteria.maxFileSize = 0 ∨ (file.content.length : Int) ≤ criteria.maxFileSize)) ∧
        (site.obstacles.reading path = none ∧
          (record.hasBlock = true ↔ Block.startMarker.toUTF8.toList <:+: file.content)) ∧
        record.path = path ∧ record.language = criteria.registry.detect path.toString ∧
        record.size = file.content.length ∧
        Timestamp.ofNanoseconds file.modified = .ok record.modified := by
  rw [kept_mem_inspect_iff]
  refine exists_congr fun file => and_congr_right fun _ => ?_
  rw [admits_iff, examine_eq_ok_iff]
  refine and_congr_right fun _ => ?_
  constructor
  · rintro ⟨hasBlock, detected, made⟩
    obtain ⟨date, dated, rfl⟩ := makeRecord_eq_ok_iff.mp made
    have searched := detect_eq_ok_iff.mp detected
    dsimp only
    exact ⟨searched, rfl, rfl, rfl, dated⟩
  · rintro ⟨searched, rfl, language, size, dated⟩
    have detected := detect_eq_ok_iff.mpr searched
    refine ⟨record.hasBlock, detected, ?_⟩
    refine makeRecord_eq_ok_iff.mpr ⟨record.modified, dated, ?_⟩
    rw [← language, ← size]

/-- The records of a walk are those of the files that are selected. -/
theorem mem_files_iff_selects (tree : site.files.WellFormed) (readable : plan.Readable)
    (noLinks : o.followLinks = false) (record : FileRecord) :
    record ∈ (ScanResult.ofEvents ((site.walkOf o plan).events (site.lookOf registry o))).files ↔
      ∃ names file, site.Selects (o.criteria registry) plan names file record := by
  rw [Walk.mem_files_iff, walkOf, noLinks]
  constructor
  · rintro ⟨path, visited, kept⟩
    obtain ⟨names, comes, rfl⟩ := readable.mem_walk_iff.mp (Walk.mem_candidates.mpr visited)
    obtain ⟨nonempty, ⟨top, content, modified, start, held⟩, keptAlong, told, listed, included⟩ :=
      (comes_iff tree).mp comes
    obtain ⟨file, found, ⟨known, small⟩, ⟨searched, hasBlock⟩, path, language, size, dated⟩ :=
      recorded_iff.mp kept
    obtain rfl := status_below tree start held found
    exact ⟨names, ⟨content, modified⟩, ⟨nonempty, ⟨top, start, held⟩, keptAlong, listed,
      (readable.includes_eq_true_iff _).mp included, ⟨_, found⟩, known, small, searched⟩, told, path,
      language, size, hasBlock, dated⟩
  · rintro ⟨names, file, selected⟩
    obtain ⟨top, start, held⟩ := selected.held
    obtain ⟨status, found⟩ := selected.found
    obtain rfl : status = file := status_below tree start held found
    have comes : plan.Comes site plan.root names := (comes_iff tree).mpr
      ⟨selected.nonempty, ⟨top, _, _, start, held⟩, selected.kept, selected.told, selected.listed,
        (readable.includes_eq_true_iff _).mpr selected.included⟩
    refine ⟨plan.root.below names,
      Walk.mem_candidates.mp (readable.mem_walk_iff.mpr ⟨names, comes, rfl⟩), ?_⟩
    exact recorded_iff.mpr ⟨status, found, ⟨selected.known, selected.small⟩,
      ⟨selected.searched, selected.hasBlock⟩, selected.path, selected.language, selected.size,
      selected.modified⟩

/-- Looking at a path keeps no more than one record, which is of that path. -/
theorem inspect_sublist (path : Path) :
    (((site.inspect criteria path).filterMap ScanEvent.kept?).map FileRecord.path).Sublist
      [path] := by
  rcases site.inspect_cases criteria path with ⟨fault, -, fails⟩ |
    ⟨file, -, ⟨-, skipped⟩ | ⟨-, ⟨record, -, kept⟩ | ⟨failure, -, fails⟩⟩⟩
  · rw [fails]
    exact List.nil_sublist _
  · rw [skipped]
    exact List.nil_sublist _
  · have inspected : .kept record ∈ site.inspect criteria path := by
      rw [kept]
      exact List.mem_cons_of_mem _ List.mem_cons_self
    rw [kept, ← path_of_inspect inspected]
    exact List.Sublist.refl _
  · rw [fails]
    exact List.nil_sublist _

/-- The files of a walk without links are in the order of files. -/
theorem files_pairwise (registry : Registry) (tree : site.files.WellFormed) (readable : plan.Readable)
    (noLinks : o.followLinks = false) :
    (ScanResult.ofEvents ((site.walkOf o plan).events (site.lookOf registry o))).files.Pairwise
      fun one other => plan.root.Precedes one.path other.path := by
  have ordered := (site.walkOf o plan).files_sublist fun path =>
    (inspect_sublist path : (((site.lookOf registry o path).filterMap ScanEvent.kept?).map
      FileRecord.path).Sublist [path])
  have candidates := readable.walk_pairwise tree
  rw [← noLinks] at candidates
  exact List.pairwise_map.mp (candidates.sublist ordered)

/-- Whatever a scan asks for when it looks at a file is about the file. -/
theorem path_of_asked {query : Query} (h : .ask query ∈ site.stepsAt criteria path) :
    query.path = path := by
  unfold stepsAt at h
  rcases List.mem_cons.mp h with own | later
  · cases own
    rfl
  · split at later
    · simp at later
    · dsimp only at later
      split at later
      · have own : query = .content path := by
          split at later <;> simpa using later
        rw [own]
        rfl
      · simp at later

/-- A scan without workers and without links that gets as far as a readable plan is given up after
a failure that is not tolerated, or returns the records of the files that are selected, each file
once and in the order of files. And whatever the file system is asked for, by the walk or when a scan
comes to a candidate, nothing on the way to it is ignored. -/
theorem scan_selects (site : Site) (registry : Registry) (path : Path) (o : ScanOptions)
    (plan : WalkPlan) (tree : site.files.WellFormed) (alone : o.concurrent = false)
    (noLinks : o.followLinks = false) (reaches : site.Reaches path o plan)
    (readable : plan.Readable) :
    ((¬site.Tolerates registry o plan ∧ ∃ reason partialResult,
        site.scan registry path o = .error (.aborted reason partialResult)) ∨
      ∃ result, site.scan registry path o = .ok result ∧
        (∀ record, record ∈ result.files ↔
          ∃ names file, site.Selects (o.criteria registry) plan names file record) ∧
        (result.files.map FileRecord.path).Nodup ∧
        result.files.Pairwise fun one other => plan.root.Precedes one.path other.path) ∧
    ∀ s ∈ plan.course site o.followLinks, ∀ query,
      .ask query ∈ s.steps (site.stepsAt (o.criteria registry)) → plan.Spares query.path := by
  have scanned : site.scan registry path o =
      (site.walkOf o plan).scan o.policy (site.lookOf registry o) := by
    rw [reaches.scan_eq registry (Or.inl alone), scanPlanned, alone]
    rfl
  have whole := readable.walk_broken site o.followLinks
  constructor
  · by_cases returned : site.scan registry path o =
        .ok (.ofEvents ((site.walkOf o plan).events (site.lookOf registry o)))
    · have ordered := files_pairwise registry tree readable noLinks
      have distinct := ordered.imp fun h => h.ne
      exact Or.inr ⟨_, returned, mem_files_iff_selects tree readable noLinks,
        List.pairwise_map.mpr distinct, ordered⟩
    · refine Or.inl ⟨fun tolerated => returned ?_, ?_⟩
      · rw [scanned]
        exact Walk.scan_eq whole tolerated
      · rw [scanned] at returned ⊢
        exact (Walk.scan_aborted_or_eq whole).resolve_right returned
  · intro s member query asked
    obtain ⟨asks, visits⟩ := WalkPlan.course_spares member
    rcases Stretch.ask_mem_steps asked with own | ⟨file, visited, about⟩
    · exact asks query own
    · rw [path_of_asked about]
      exact visits _ visited

/-- In a directory with two files, one of which cannot be looked at, the other one is selected. -/
theorem scan_selects_in_pair :
    pair.files.WellFormed ∧ pairPlan.Readable ∧
    pair.Reaches ⟨1, ["src"]⟩ (pairOptions.withConcurrent false) pairPlan ∧
    (pairOptions.withConcurrent false).concurrent = false ∧
    (pairOptions.withConcurrent false).followLinks = false ∧
    ∃ result, pair.scan .standard ⟨1, ["src"]⟩ (pairOptions.withConcurrent false) = .ok result ∧
      ⟨⟨1, ["src", "a.py"]⟩, "Python", 1, ⟨1700000000123457⟩, false⟩ ∈ result.files ∧
      (result.files.map FileRecord.path).Nodup := by
  have reaches := (reaches_withConcurrent false).mpr pair_reaches
  have selects := (scan_selects pair .standard ⟨1, ["src"]⟩ (pairOptions.withConcurrent false)
    pairPlan pair_wellFormed rfl rfl reaches pair_readable).1
  obtain ⟨result, returned, exact_, distinct, -⟩ :=
    selects.resolve_left fun givenUp => givenUp.1 pair_tolerates
  have selected := (mem_files_iff_selects pair_wellFormed pair_readable rfl _).mp pair_found
  exact ⟨pair_wellFormed, pair_readable, reaches, rfl, rfl, result, returned,
    (exact_ _).mpr selected, distinct⟩

/-- Two files, one of which was modified at a time that has no date. -/
def elusiveEntries : List (String × Entry) :=
  [("a.py", .file [] 300000000000000000000), ("b.py", .file [] 0)]

/-- A file system with these in a directory, which does not tell of the other one what it is. -/
def elusive : Site :=
  { files := ⟨[("src", .directory elusiveEntries)]⟩
    obstacles :=
      { kind := fun p =>
          if p.name = "b.py" then some ⟨.other 5 "Input/output error", rfl⟩ else none } }

/-- Options for a scan of it without workers that allows all failures. -/
def elusiveOptions : ScanOptions :=
  { pairOptions with concurrent := false, maxErrors := 0 }

/-- A file in the directory that is kept and wanted, and in a language that is known, qualifies for a
record. -/
theorem elusive_qualifies {name : String} {modified : Int}
    (member : (name, .file [] modified) ∈ elusiveEntries)
    (kept : pairPlan.keeps (pairPlan.root.child name) = true)
    (wanted : pairPlan.wants (pairPlan.root.child name) = true)
    (found : elusive.status (pairPlan.root.child name) = .ok ⟨[], modified⟩)
    (known : Registry.standard.detect (pairPlan.root.child name).toString ≠ unknownLanguage) :
    elusive.Qualifies (elusiveOptions.criteria .standard) pairPlan [name] ⟨[], modified⟩ := by
  have located : elusive.files.locate pairPlan.root = .ok (.directory elusiveEntries) := by cbv
  exact
    { nonempty := List.cons_ne_nil _ _
      held := ⟨_, located, .down member (.here _)⟩
      kept := Path.eachBelow_cons.mpr ⟨(WalkPlan.keeps_iff _).mp kept, Path.eachBelow_nil _ _⟩
      listed := Path.eachAbove_cons.mpr ⟨⟨rfl, _, located⟩, Path.eachAbove_nil _ _⟩
      included := (pair_readable.includes_eq_true_iff _).mp ((WalkPlan.wants_iff _).mp wanted)
      found := ⟨_, found⟩
      known := known
      small := Or.inr (by change (0 : Int) ≤ 1048576; decide)
      searched := rfl }

/-- The file without a date qualifies. -/
theorem elusive_far : elusive.Qualifies (elusiveOptions.criteria .standard) pairPlan ["a.py"]
    ⟨[], 300000000000000000000⟩ :=
  elusive_qualifies (by simp [elusiveEntries]) (by decide +kernel) (by decide +kernel) (by cbv)
    (by decide +kernel)

/-- The file that is not known to be one qualifies. -/
theorem elusive_veiled : elusive.Qualifies (elusiveOptions.criteria .standard) pairPlan
    ["b.py"] ⟨[], 0⟩ :=
  elusive_qualifies (by simp [elusiveEntries]) (by decide +kernel) (by decide +kernel) (by cbv)
    (by decide +kernel)

/-- The plan is reached. -/
theorem elusive_reaches : elusive.Reaches ⟨1, ["src"]⟩ elusiveOptions pairPlan :=
  ⟨by cbv, by cbv, by cbv⟩

/-- The directory and the files have names that differ where they have to. -/
theorem elusive_wellFormed : elusive.files.WellFormed := by
  refine .directory (by decide) (by decide) (List.forall_mem_singleton.mpr ?_)
  exact Entry.wellFormed_of_leaves (by decide) (by decide) (by decide)

/-- Neither of the two is selected. -/
theorem elusive_not_selects {names : List String} {file : FileStatus} {record : FileRecord} :
    ¬elusive.Selects (elusiveOptions.criteria .standard) pairPlan names file record := by
  intro selected
  have located : elusive.files.locate pairPlan.root = .ok (.directory elusiveEntries) := by cbv
  obtain ⟨top, start, held⟩ := selected.held
  obtain rfl := Except.ok.inj (located.symm.trans start)
  cases held with
  | @down _ name child _ rest member held =>
    rcases List.mem_pair.mp member with own | own
    · obtain ⟨-, rfl⟩ := Prod.mk.inj own
      generalize atEnd : Entry.file file.content file.modified = found at held
      cases held
      obtain ⟨-, modified⟩ := Entry.file.inj atEnd
      have noDate : Timestamp.ofNanoseconds 300000000000000000000 = .error 11476 := by
        decide +kernel
      have dated := selected.modified
      rw [modified, noDate] at dated
      cases dated
    · obtain ⟨rfl, -⟩ := Prod.mk.inj own
      have told := (Path.eachBelow_cons.mp selected.told).1
      revert told
      decide

/-- That a file qualifies is not enough. A file from a time without a date has no record, and neither
has one of which it cannot be told what it is, though nothing else is in their way. -/
theorem scan_omits_elusive :
    elusive.files.WellFormed ∧ pairPlan.Readable ∧
    elusive.Reaches ⟨1, ["src"]⟩ elusiveOptions pairPlan ∧
    elusiveOptions.concurrent = false ∧ elusiveOptions.followLinks = false ∧
    elusive.Qualifies (elusiveOptions.criteria .standard) pairPlan ["a.py"]
      ⟨[], 300000000000000000000⟩ ∧
    elusive.Qualifies (elusiveOptions.criteria .standard) pairPlan ["b.py"] ⟨[], 0⟩ ∧
    ∃ result, elusive.scan .standard ⟨1, ["src"]⟩ elusiveOptions = .ok result ∧
      result.files = [] := by
  have reaches := elusive_reaches
  have returned : elusive.scan .standard ⟨1, ["src"]⟩ elusiveOptions =
      .ok (.ofEvents ((elusive.walkOf elusiveOptions pairPlan).events
        (elusive.lookOf .standard elusiveOptions))) := by
    rw [reaches.scan_eq .standard (Or.inl rfl)]
    exact Walk.scan_eq (pair_readable.walk_broken _ _) ⟨rfl, Or.inl (by decide)⟩
  refine ⟨elusive_wellFormed, pair_readable, reaches, rfl, rfl, elusive_far, elusive_veiled, _,
    returned, ?_⟩
  refine List.eq_nil_iff_forall_not_mem.mpr fun record kept => ?_
  obtain ⟨names, file, selected⟩ :=
    (mem_files_iff_selects elusive_wellFormed pair_readable rfl record).mp kept
  exact elusive_not_selects selected

end Site

end DocGraph
