import DocGraph.Proofs.Rules.Kinds
import DocGraph.Proofs.Scan.Once
import DocGraph.Proofs.Scan.Traversal

/-!
# Pruning agrees with matching

A walk leaves out an ignored directory with everything below it, whatever the rules say of what is
below. For rules without wildcards and doubled slashes this makes no difference: what lies below an
ignored path is ignored as well. So a walk comes to the files that a walk without rules comes to,
but for those that the rules ignore by their own path.
-/

set_option autoImplicit false

namespace DocGraph

namespace IgnoreRules

variable {rule name path : List Char} {rules : IgnoreRules}

/-- A rule, in any spelling of its slashes, without wildcards and without doubled slashes. -/
structure Plain (rule : String) : Prop where
  noWildcard : hasWildcard (forwardSlashes rule.toList) = false
  noDouble : ¬['/', '/'] <:+: forwardSlashes rule.toList

/-! ## What plain rules name -/

/-- A rule without wildcards is no ending. -/
theorem matchesEnding_of_plain (plain : hasWildcard rule = false) :
    matchesEnding rule path = false := by
  unfold matchesEnding
  rw [Bool.and_eq_false_iff]
  left
  refine Bool.eq_false_of_not_eq_true fun star => ?_
  obtain ⟨rest, rfl⟩ := List.isPrefixOf_iff_prefix.mp star
  cases plain

/-- A directory without wildcards. -/
theorem ruleMatches_plainDirectory (plain : hasWildcard (name ++ ['/']) = false) :
    ruleMatches (name ++ ['/']) path = .ok (matchesDirectory (name ++ ['/']) path) := by
  unfold ruleMatches
  rw [if_neg (by simp)]
  by_cases same : path = name ++ ['/']
  · rw [if_pos same, same]
    simp [matchesDirectory]
  · rw [if_neg same, if_neg (by simp), matchesEnding_of_plain plain, if_neg Bool.false_ne_true,
      if_pos (by simp)]

/-- Any other rule with a slash and without wildcards names the paths in which it occurs. -/
theorem ruleMatches_text (plain : hasWildcard rule = false) (slash : '/' ∈ rule)
    (ends : rule.getLast? ≠ some '/') : ruleMatches rule path = .ok (decide (rule <:+: path)) := by
  have bare : (!rule.contains '/' && !hasWildcard rule) = false := by simp [slash]
  have occurs : Text.occursIn rule path = decide (rule <:+: path) := by
    rw [Bool.eq_iff_iff, Text.occursIn_iff_isInfix, decide_eq_true_iff]
  unfold ruleMatches
  rw [if_neg (by simpa using List.ne_nil_of_mem slash), bare, matchesEnding_of_plain plain, plain,
    occurs]
  by_cases same : path = rule
  · rw [if_pos same, same, decide_eq_true List.infix_rfl]
  · simp only [if_neg same, if_neg ends, Bool.false_eq_true, if_false]

/-- What a plain rule names, it names with everything below it. -/
theorem ruleMatches_below (plain : hasWildcard rule = false) (noDouble : ¬['/', '/'] <:+: rule)
    (h : ruleMatches rule path = .ok true) (rest : List Char) :
    ruleMatches rule (path ++ '/' :: rest) = .ok true := by
  by_cases slash : '/' ∈ rule
  · by_cases ends : rule.getLast? = some '/'
    · obtain ⟨name, rfl⟩ := List.getLast?_eq_some_iff.mp ends
      have single : name.getLast? ≠ some '/' := by
        intro last
        obtain ⟨short, rfl⟩ := List.getLast?_eq_some_iff.mp last
        exact noDouble ⟨short, [], by simp⟩
      rw [ruleMatches_plainDirectory plain, Except.ok.injEq, matchesDirectory_iff single] at h ⊢
      rcases h with ⟨inside, rfl⟩ | rfl | ⟨noSlash, part⟩
      · exact Or.inl ⟨inside ++ '/' :: rest, by simp⟩
      · exact Or.inl ⟨rest, by simp⟩
      · rw [List.splitOn_append_cons_self]
        exact Or.inr (Or.inr ⟨noSlash, List.mem_append_left _ part⟩)
    · rw [ruleMatches_text plain slash ends, Except.ok.injEq, decide_eq_true_iff] at h ⊢
      exact h.trans (List.prefix_append _ _).isInfix
  · by_cases some_ : rule = []
    · rw [some_] at h
      cases h
    · rw [ruleMatches_name some_ slash plain, Except.ok.injEq, decide_eq_true_iff] at h ⊢
      rw [List.splitOn_append_cons_self]
      exact List.mem_append_left _ h

/-! ## What readable rules ignore -/

/-- Readable rules name a path if one of them does. -/
theorem Readable.anyMatches_iff (h : rules.Readable) :
    rules.anyMatches path = .ok true ↔
      ∃ rule ∈ rules, ruleMatches (forwardSlashes rule.toList) path = .ok true := by
  induction rules with
  | nil => simp [anyMatches]
  | cons rule rest ih =>
    have later := ih fun r member => h r (List.mem_cons_of_mem _ member)
    obtain ⟨b, matched⟩ :=
      ruleMatches_ok (forwardSlashes rule.toList) path (h rule List.mem_cons_self)
    rw [anyMatches, List.exists_mem_cons_iff, matched]
    cases b with
    | true => simp
    | false => simp [later]

/-- Plain rules can be read, for none of them is a glob. -/
theorem readable_of_plain (plain : ∀ rule ∈ rules, Plain rule) : rules.Readable := by
  intro rule member glob
  have noWildcard := (plain rule member).noWildcard
  rw [glob.1] at noWildcard
  cases noWildcard

/-- What lies below an ignored path is ignored. -/
def Inherited (rules : IgnoreRules) : Prop :=
  ∀ path rest : String, rules.ignores path = .ok true → rules.ignores (path ++ "/" ++ rest) = .ok true

/-- What plain rules ignore, they ignore with everything below it. -/
theorem inherited_of_plain (plain : ∀ rule ∈ rules, Plain rule) : rules.Inherited := by
  intro path rest ignored
  have readable := readable_of_plain plain
  have longer : forwardSlashes (path ++ "/" ++ rest).toList =
      forwardSlashes path.toList ++ '/' :: forwardSlashes rest.toList := by
    rw [String.toList_append, String.toList_append, forwardSlashes_append, forwardSlashes_append,
      List.append_assoc]
    rfl
  have notRoot : forwardSlashes path.toList ++ '/' :: forwardSlashes rest.toList ∉ [[], ['.']] := by
    intro root
    rcases List.mem_pair.mp root with root | root
    · simp at root
    · have slash : '/' ∈ ['.'] := root ▸ by simp
      revert slash
      decide
  rw [ignores_eq] at ignored ⊢
  rw [longer, if_neg notRoot]
  split at ignored
  · cases ignored
  · obtain ⟨rule, member, matched⟩ := readable.anyMatches_iff.mp ignored
    refine readable.anyMatches_iff.mpr ⟨rule, member, ?_⟩
    exact ruleMatches_below (plain rule member).noWildcard (plain rule member).noDouble matched _

end IgnoreRules

/-! ## Sieving a walk -/

namespace Walk

variable {keep : Path → Bool} {walk first second whole more : Walk}

/-- One walk comes to those candidates of another that pass a test. If that one is broken off, this
one may go further. -/
structure Sieves (keep : Path → Bool) (walk whole : Walk) : Prop where
  front : whole.candidates.filter keep <+: walk.candidates
  through : whole.broken = none →
    walk.broken = none ∧ walk.candidates = whole.candidates.filter keep

/-- A walk whose candidates all pass is its own sieve. -/
theorem sieves_self (passes : ∀ p ∈ walk.candidates, keep p = true) : Sieves keep walk walk := by
  have all := List.filter_eq_self.mpr passes
  exact ⟨by rw [all], fun whole => ⟨whole, all.symm⟩⟩

/-- A walk without candidates is its own sieve. -/
theorem sieves_same (nobody : walk.candidates = []) : Sieves keep walk walk := by
  refine sieves_self fun p member => ?_
  rw [nobody] at member
  cases member

/-- A walk whose candidates all fail is left out. -/
theorem sieves_nothing (fails : ∀ p ∈ whole.candidates, keep p = false) :
    Sieves keep nothing whole := by
  have none_ : whole.candidates.filter keep = [] :=
    List.filter_eq_nil_iff.mpr fun p member => by simp [fails p member]
  exact ⟨by rw [none_]; exact List.nil_prefix, fun _ => ⟨rfl, none_.symm⟩⟩

/-- The candidates of two walks, the first of which was not broken off. -/
theorem candidates_andThen (h : first.broken = none) :
    (first.andThen second).candidates = first.candidates ++ second.candidates := by
  rw [candidates, andThen_visits h, List.filterMap_append]
  rfl

/-- Two walks are sieved one after the other. -/
theorem Sieves.andThen (h : Sieves keep first whole) (h' : Sieves keep second more) :
    Sieves keep (first.andThen second) (whole.andThen more) := by
  cases over_ : whole.broken with
  | some e =>
    have stopped : whole.andThen more = whole := by rw [Walk.andThen, over_]
    rw [stopped]
    refine ⟨h.front.trans ?_, fun impossible => ?_⟩
    · cases broken : first.broken with
      | some e => rw [Walk.andThen, broken]
      | none =>
        rw [candidates_andThen broken]
        exact List.prefix_append _ _
    · rw [over_] at impossible
      cases impossible
  | none =>
    obtain ⟨broken, same⟩ := h.through over_
    refine ⟨?_, ?_⟩
    · rw [candidates_andThen over_, candidates_andThen broken, List.filter_append, same]
      exact (List.prefix_append_right_inj _).mpr h'.front
    · rw [andThen_broken over_, andThen_broken broken, candidates_andThen over_,
        candidates_andThen broken, List.filter_append, same]
      intro end_
      obtain ⟨also, rest⟩ := h'.through end_
      exact ⟨also, congrArg _ rest⟩

/-- What is left of a walk is nothing if a walk without candidates sieves it. -/
theorem Sieves.nothing_left (h : Sieves keep walk whole) (nobody : walk.candidates = []) :
    Sieves keep nothing whole := by
  have front := h.front
  rw [nobody, List.prefix_nil] at front
  refine sieves_nothing fun p member => ?_
  exact Bool.eq_false_of_not_eq_true (List.filter_eq_nil_iff.mp front p member)

/-- Several walks are sieved one after the other. -/
theorem sieves_sequence {α : Type} {walk whole : α → Walk} {xs : List α}
    (each : ∀ x ∈ xs, Sieves keep (walk x) (whole x)) :
    Sieves keep (sequence (xs.map walk)) (sequence (xs.map whole)) := by
  induction xs with
  | nil => exact sieves_same rfl
  | cons x rest ih =>
    have later := ih fun y member => each y (List.mem_cons_of_mem _ member)
    exact (each x List.mem_cons_self).andThen later

/-- Several walks are sieved one after the other, some of which are left out. -/
theorem sieves_sequence_filter {α : Type} {walk whole : α → Walk} {test : α → Bool} {xs : List α}
    (each : ∀ x ∈ xs, Sieves keep (if test x then walk x else nothing) (whole x)) :
    Sieves keep (sequence ((xs.filter test).map walk)) (sequence (xs.map whole)) := by
  have same : sequence ((xs.filter test).map walk) =
      sequence (xs.map fun x => if test x then walk x else nothing) := by
    clear each
    induction xs with
    | nil => rfl
    | cons x rest ih =>
      rw [List.filter_cons, List.map_cons]
      split
      · exact congrArg (andThen (walk x)) ih
      · exact ih
  rw [same]
  exact sieves_sequence each

end Walk

/-! ## Pruned walks -/

namespace WalkPlan

open IgnoreRules (Inherited Plain)
open Walk (Sieves)

variable {plan : WalkPlan} {site : Site} {names : List String}

/-- The plan without rules. -/
def unpruned (plan : WalkPlan) : WalkPlan :=
  { plan with rules := [] }

/-- It ignores nothing. -/
theorem unpruned_ignores (path : Path) : plan.unpruned.ignores path = .ok false := by
  unfold ignores
  rw [IgnoreRules.ignores_eq]
  exact ite_self _

/-- What a plan does not keep is ignored, if its rules can be read. -/
theorem ignores_of_not_keeps (readable : plan.rules.Readable) {path : Path}
    (h : plan.keeps path = false) : plan.ignores path = .ok true := by
  obtain ⟨ignored, answer⟩ := readable.ignores_ok (plan.relative path)
  change plan.ignores path = .ok ignored at answer
  cases ignored with
  | true => exact answer
  | false =>
    rw [(keeps_iff path).mpr answer] at h
    cases h

/-- What is below an ignored path below the root is ignored. -/
theorem ignores_child (inherited : plan.rules.Inherited) (some_ : names ≠ []) {name : String}
    (ignored : plan.ignores (plan.root.below names) = .ok true) :
    plan.ignores ((plan.root.below names).child name) = .ok true := by
  have relative : ∀ chain, chain ≠ [] →
      plan.relative (plan.root.below chain) = "/".intercalate chain := by
    intro chain nonempty
    have found : (plan.root.below chain).relativeTo? plan.root = some ⟨0, chain⟩ :=
      Path.relativeTo?_eq_some_iff.mpr ⟨chain, rfl, rfl⟩
    rw [WalkPlan.relative, Path.relativeText, found, Option.getD_some, Path.toString_relative,
      if_neg nonempty]
  unfold ignores at ignored ⊢
  rw [Path.child_eq_below, Path.below_below, relative _ (by simp),
    String.intercalate_append_of_ne_nil some_ (List.cons_ne_nil _ _)]
  rw [relative _ some_] at ignored
  exact inherited _ _ ignored

/-- Of an entry that is met, the rules take away nothing but what they ignore. -/
theorem sieves_meet (readable : plan.rules.Readable) (path : Path) (entry : Entry) :
    Sieves plan.keeps (plan.meet site false path entry).1.walk
      (plan.unpruned.meet site false path entry).1.walk := by
  have only : ∀ p ∈ (plan.unpruned.meet site false path entry).1.walk.candidates, p = path := by
    intro p member
    have own := Option.mem_toList.mp (Walk.mem_candidates.mp member)
    exact (meet_visit own).1
  cases kept : plan.keeps path with
  | true =>
    have same : plan.meet site false path entry = plan.unpruned.meet site false path entry := by
      unfold meet
      rw [(keeps_iff path).mp kept, unpruned_ignores]
      rfl
    rw [same]
    exact Walk.sieves_self fun p member => only p member ▸ kept
  | false =>
    rw [meet_of_ignored (ignores_of_not_keeps readable kept)]
    exact Walk.sieves_nothing fun p member => only p member ▸ kept

/-- Of a round, the rules take away what they ignore. -/
theorem sieves_round (readable : plan.rules.Readable) (path : Path) :
    Sieves plan.keeps (.ofCourse (plan.round site false path).1)
      (.ofCourse (plan.unpruned.round site false path).1) := by
  unfold round
  cases site.entriesOf path with
  | error fault => exact Walk.sieves_same rfl
  | ok entries =>
    dsimp only
    rw [Walk.ofCourse_cons, Walk.ofCourse_cons, Walk.ofCourse, Walk.ofCourse, List.map_map,
      List.map_map, List.map_map, List.map_map]
    exact Sieves.andThen (Walk.sieves_same rfl)
      (Walk.sieves_sequence fun e _ => sieves_meet readable (path.child e.1) e.2)

/-- The subdirectories that the rules leave are those that they keep. -/
theorem subdirectories_unpruned (plan : WalkPlan) (site : Site) (path : Path) :
    (plan.round site false path).2 =
      (plan.unpruned.round site false path).2.filter plan.keeps := by
  unfold round
  cases site.entriesOf path with
  | error fault => rfl
  | ok entries =>
    dsimp only
    rw [List.filterMap_map, List.filterMap_map, List.filter_filterMap]
    refine List.filterMap_congr fun e _ => Option.ext fun d => ?_
    simp only [Function.comp_apply, meet_directory_iff, Option.filter_eq_some_iff, keeps_iff,
      unpruned_ignores, true_and]
    constructor
    · rintro ⟨rfl, kept, leads⟩
      exact ⟨⟨rfl, leads⟩, kept⟩
    · rintro ⟨⟨rfl, leads⟩, kept⟩
      exact ⟨rfl, kept, leads⟩

/-- A walk from an ignored directory comes to nothing. -/
theorem candidates_of_ignored (inherited : plan.rules.Inherited) (some_ : names ≠ [])
    (ignored : plan.ignores (plan.root.below names) = .ok true) :
    (plan.descend site (plan.root.below names)).candidates = [] := by
  have met : ∀ e : String × Entry,
      plan.ignores ((plan.root.below names).child e.1) ≠ .ok false := by
    intro e kept
    cases kept.symm.trans (ignores_child inherited some_ ignored)
  have noneBelow : (plan.round site false (plan.root.below names)).2 = [] := by
    refine List.eq_nil_iff_forall_not_mem.mpr fun d later => ?_
    obtain ⟨entries, -, e, -, -, kept, -⟩ := mem_subdirectories_iff.mp later
    exact met e kept
  have whole : plan.descend site (plan.root.below names) =
      .ofCourse (plan.round site false (plan.root.below names)).1 := by
    rw [descend_eq, noneBelow]
    exact Walk.andThen_nothing _
  rw [whole]
  refine List.eq_nil_iff_forall_not_mem.mpr fun p member => ?_
  obtain ⟨entries, -, e, -, own⟩ :=
    candidate_of_round_iff.mp ((Walk.candidates_ofCourse _).subset member)
  exact met e (meet_candidate_iff.mp own).2.1

/-- Of a walk through a directory the rules take away what they ignore. -/
theorem sieves_descend (readable : plan.rules.Readable) (inherited : plan.rules.Inherited)
    (names : List String) :
    Sieves plan.keeps (plan.descend site (plan.root.below names))
      (plan.unpruned.descend site (plan.root.below names)) := by
  generalize at_ : plan.root.below names = path
  induction path using descent_induction plan.unpruned site generalizing names with
  | step path ih =>
    subst at_
    rw [descend_eq, descend_eq, subdirectories_unpruned]
    refine (sieves_round readable _).andThen (Walk.sieves_sequence_filter fun d later => ?_)
    obtain ⟨entries, -, e, -, rfl, -⟩ := mem_subdirectories_iff.mp later
    have below : plan.root.below (names ++ [e.1]) = (plan.root.below names).child e.1 :=
      (Path.below_below _ _ _).symm
    have inside := ih _ later (names ++ [e.1]) below
    cases kept : plan.keeps ((plan.root.below names).child e.1) with
    | true => exact inside
    | false =>
      refine inside.nothing_left ?_
      rw [← below] at kept ⊢
      exact candidates_of_ignored inherited (by simp) (ignores_of_not_keeps readable kept)

/-- What rules without wildcards and doubled slashes ignore, they ignore with everything below it. So
a walk that leaves out ignored directories comes to the files, in the same order, that a walk
without rules comes to and whose own paths the rules do not ignore. The globs for what is to be
included need not be readable: the walk gets at least as far as the one without rules. -/
theorem walk_prunes (plan : WalkPlan) (site : Site) (plain : ∀ rule ∈ plan.rules, Plain rule) :
    (∀ path rest : String, plan.rules.ignores path = .ok true →
        plan.rules.ignores (path ++ "/" ++ rest) = .ok true) ∧
      (plan.unpruned.walk site false).candidates.filter plan.keeps <+:
        (plan.walk site false).candidates ∧
      ((plan.unpruned.walk site false).broken = none →
        (plan.walk site false).broken = none ∧
          (plan.walk site false).candidates =
            (plan.unpruned.walk site false).candidates.filter plan.keeps) := by
  have inherited := IgnoreRules.inherited_of_plain plain
  have readable := IgnoreRules.readable_of_plain plain
  have sieves := @sieves_descend plan site readable inherited []
  have unpruned : plan.unpruned.walk site false = plan.unpruned.descend site plan.root :=
    plan.unpruned.walk_eq_descend site
  rw [Path.below_nil, ← walk_eq_descend, ← unpruned] at sieves
  exact ⟨inherited, sieves.front, sieves.through⟩

/-- Two subdirectories, one of which holds another one. -/
def nestedEntries : List (String × Entry) :=
  [("a.py", .file [] 0),
    ("build", .directory [("b.py", .file [] 0)]),
    ("lib", .directory [("c.py", .file [] 0), ("tmp", .directory [("d.py", .file [] 0)])])]

/-- A file system with these in a directory. -/
def nested : Site where
  files := ⟨[("src", .directory nestedEntries)]⟩

/-- The directories and files have names that differ where they have to. -/
theorem nested_wellFormed : nested.files.WellFormed := by
  have build : (Entry.directory [("b.py", .file [] 0)]).WellFormed :=
    Entry.wellFormed_of_leaves (by decide) (by decide) (by decide)
  have tmp : (Entry.directory [("d.py", .file [] 0)]).WellFormed :=
    Entry.wellFormed_of_leaves (by decide) (by decide) (by decide)
  have lib : (Entry.directory
      [("c.py", .file [] 0), ("tmp", .directory [("d.py", .file [] 0)])]).WellFormed :=
    .directory (by decide) (by decide)
      (List.forall_mem_cons.mpr ⟨.file _ _, List.forall_mem_singleton.mpr tmp⟩)
  have src : (Entry.directory nestedEntries).WellFormed :=
    .directory (by decide) (by decide) (List.forall_mem_cons.mpr
      ⟨.file _ _, List.forall_mem_cons.mpr ⟨build, List.forall_mem_singleton.mpr lib⟩⟩)
  exact .directory (by decide) (by decide) (List.forall_mem_singleton.mpr src)

/-- A directory in it is listed as it is, if its names ascend. -/
theorem nested_listed {p : Path} {entries : List (String × Entry)} (noNull : p.hasNull = false)
    (short : p.toString.utf8ByteSize ≤ pathLimit)
    (held : (Entry.directory nested.files.top).Holds p.parts (.directory entries))
    (ascends : entries.Pairwise fun a b => (!decide (b.1 < a.1)) = true) :
    nested.entriesOf p = .ok entries :=
  Site.entriesOf_of_ascending
    (nested.files.locate_of_holds nested_wellFormed noNull short held (by simp)) rfl ascends

/-- A rule for a name, and one for a directory with a backslash in it. -/
def nestedPlan : WalkPlan :=
  ⟨⟨1, ["src"]⟩, ["build", "lib\\tmp/"], []⟩

/-- Without rules there is nothing that could fail to compile. -/
theorem nestedPlan_unpruned_readable : nestedPlan.unpruned.Readable :=
  ⟨fun _ impossible => absurd impossible List.not_mem_nil,
    fun _ impossible => absurd impossible List.not_mem_nil⟩

/-- What the walk without rules comes to from a directory, and the subdirectories that it goes
through. -/
theorem nested_descends {p : Path} {entries : List (String × Entry)} {files directories : List Path}
    (listed : nested.entriesOf p = .ok entries)
    (own : entries.filterMap
      (fun e => (nestedPlan.unpruned.meet nested false (p.child e.1) e.2).1.candidate?) = files)
    (below : entries.filterMap
      (fun e => (nestedPlan.unpruned.meet nested false (p.child e.1) e.2).2) = directories) :
    (nestedPlan.unpruned.descend nested p).candidates = files ++
      directories.flatMap fun d => (nestedPlan.unpruned.descend nested d).candidates := by
  rw [nestedPlan_unpruned_readable.candidates_of_listed listed, own, below]

/-- Without rules, the walk comes to all four files. -/
theorem nested_candidates : (nestedPlan.unpruned.walk nested false).candidates =
    [⟨1, ["src", "a.py"]⟩, ⟨1, ["src", "build", "b.py"]⟩, ⟨1, ["src", "lib", "c.py"]⟩,
      ⟨1, ["src", "lib", "tmp", "d.py"]⟩] := by
  have top : (Entry.directory nested.files.top).Holds ["src"] (.directory nestedEntries) :=
    .down List.mem_cons_self (.here _)
  have inBuild := top.snoc (List.mem_cons_of_mem _ List.mem_cons_self)
  have inLib := top.snoc (List.mem_cons_of_mem _ (List.mem_cons_of_mem _ List.mem_cons_self))
  have inTmp := inLib.snoc (List.mem_cons_of_mem _ List.mem_cons_self)
  have src := @nested_listed ⟨1, ["src"]⟩ _ (by decide) (by decide) top (by decide)
  have build := @nested_listed ⟨1, ["src", "build"]⟩ _ (by decide) (by decide) inBuild (by decide)
  have lib := @nested_listed ⟨1, ["src", "lib"]⟩ _ (by decide) (by decide) inLib (by decide)
  have tmp := @nested_listed ⟨1, ["src", "lib", "tmp"]⟩ _ (by decide) (by decide) inTmp (by decide)
  have fromTmp := @nested_descends _ _ [⟨1, ["src", "lib", "tmp", "d.py"]⟩] [] tmp
    (by decide +kernel) (by decide +kernel)
  have fromLib := @nested_descends _ _ [⟨1, ["src", "lib", "c.py"]⟩] [⟨1, ["src", "lib", "tmp"]⟩] lib
    (by decide +kernel) (by decide +kernel)
  have fromBuild := @nested_descends _ _ [⟨1, ["src", "build", "b.py"]⟩] [] build
    (by decide +kernel) (by decide +kernel)
  have fromSrc := @nested_descends _ _ [⟨1, ["src", "a.py"]⟩]
    [⟨1, ["src", "build"]⟩, ⟨1, ["src", "lib"]⟩] src (by decide +kernel) (by decide +kernel)
  have start : nestedPlan.unpruned.root = ⟨1, ["src"]⟩ := rfl
  rw [walk_eq_descend, start, fromSrc]
  simp [fromBuild, fromLib, fromTmp]

/-- Of the four files, two are in directories that are ignored. -/
theorem walk_prunes_nested :
    (∀ rule ∈ nestedPlan.rules, Plain rule) ∧
      nestedPlan.rules.ignores "lib/tmp/d.py" = .ok true ∧
      (nestedPlan.walk nested false).candidates =
        [⟨1, ["src", "a.py"]⟩, ⟨1, ["src", "lib", "c.py"]⟩] := by
  have plain : ∀ rule ∈ nestedPlan.rules, Plain rule := by
    intro rule member
    rcases List.mem_pair.mp member with rfl | rfl
    · exact ⟨by decide, by decide⟩
    · exact ⟨by decide, by decide⟩
  obtain ⟨inherited, -, through⟩ := walk_prunes nestedPlan nested plain
  obtain ⟨-, same⟩ := through (nestedPlan_unpruned_readable.walk_broken nested false)
  refine ⟨plain, inherited "lib/tmp" "d.py" (by decide), ?_⟩
  rw [same, nested_candidates]
  decide +kernel

end WalkPlan

end DocGraph
