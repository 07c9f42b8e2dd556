import DocGraph.Proofs.Scan.Visits
import Mathlib

/-!
# No path comes up twice in a walk

A path comes up in a walk as a candidate or as what the walk fails at. Where links are followed, a
directory may be reached in many ways, but a path leads to it in one of them. What has come up and
the directories that are yet to be listed lie apart: none of them is another one or lies beneath it.
A round takes one of the directories away, and what it puts in its place lies apart again, and lies in
that directory, so it has nothing to do with any other.

So the paths that come up are different, and their texts differ as well. The texts of candidates do
so whatever path they are relative to.
-/

set_option autoImplicit false

namespace DocGraph

namespace Path

/-- Two paths of which neither is the other one or lies beneath it. -/
def Apart (first second : Path) : Prop :=
  first ≠ second ∧ ¬first.Beneath second ∧ ¬second.Beneath first

/-- Of two paths that something lies beneath, one is the other or lies beneath it. -/
theorem Beneath.comparable {path first second : Path} (left : path.Beneath first)
    (right : path.Beneath second) :
    first = second ∨ first.Beneath second ∨ second.Beneath first := by
  obtain ⟨names, -, valid, rfl⟩ := left
  obtain ⟨others, -, validOthers, same⟩ := right
  obtain ⟨slashes, parts⟩ := Path.mk.inj same
  -- The longer of the two starts with the shorter one, and goes on with some of the names.
  rcases List.append_eq_append_iff.mp parts with ⟨more, longer, split⟩ | ⟨more, longer, split⟩
  · by_cases equal : more = []
    · rw [equal, List.append_nil] at longer
      exact Or.inl (Path.mk.injEq .. ▸ ⟨slashes, longer.symm⟩)
    · refine Or.inr (Or.inr ⟨more, equal, ?_, Path.mk.injEq .. ▸ ⟨slashes.symm, longer⟩⟩)
      exact fun name member => valid name (split ▸ List.mem_append_left _ member)
  · by_cases equal : more = []
    · rw [equal, List.append_nil] at longer
      exact Or.inl (Path.mk.injEq .. ▸ ⟨slashes, longer⟩)
    · refine Or.inr (Or.inl ⟨more, equal, ?_, Path.mk.injEq .. ▸ ⟨slashes, longer⟩⟩)
      exact fun name member => validOthers name (split ▸ List.mem_append_left _ member)

/-- Nothing lies beneath two paths that lie apart. -/
theorem Apart.not_beneath {path first second : Path} (apart : first.Apart second)
    (left : path.Beneath first) : ¬path.Beneath second := by
  intro right
  rcases left.comparable right with same | inner | outer
  · exact apart.1 same
  · exact apart.2.1 inner
  · exact apart.2.2 outer

/-- Different names give different paths below a directory. -/
theorem child_injective (path : Path) : Function.Injective path.child := by
  intro name other same
  exact (List.cons.inj (below_injective path same)).1

/-- No entry of a directory is beneath another one. -/
theorem not_beneath_sibling (path : Path) (name other : String) :
    ¬(path.child name).Beneath (path.child other) := by
  rintro ⟨chain, some_, -, same⟩
  rw [child_below] at same
  have one : [name] = other :: chain := below_injective path same
  exact some_ (List.cons.inj one).2.symm

/-- Different children lie apart. -/
theorem children_apart (path : Path) {name other : String} (differ : name ≠ other) :
    (path.child name).Apart (path.child other) := by
  refine ⟨fun same => differ (path.child_injective same), ?_, ?_⟩
  · exact not_beneath_sibling path name other
  · exact not_beneath_sibling path other name

/-- What lies in a path that lies in a root lies in the root. -/
theorem Within.trans {path middle root : Path} (inner : path.Within middle)
    (outer : middle.Within root) : path.Within root := by
  rcases inner with rfl | below
  · exact outer
  · rcases outer with rfl | above
    · exact Or.inr below
    · exact Or.inr (below.trans above)

/-- Lying apart goes both ways. -/
theorem Apart.symm {path other : Path} (apart : path.Apart other) : other.Apart path :=
  ⟨apart.1.symm, apart.2.2, apart.2.1⟩

/-- What lies in a path lies apart from what that lies apart from. -/
theorem Apart.within {path inner other : Path} (apart : path.Apart other)
    (within : inner.Within path) : inner.Apart other := by
  rcases within with rfl | inside
  · exact apart
  · refine ⟨?_, apart.not_beneath inside, fun below => apart.2.2 (below.trans inside)⟩
    rintro rfl
    exact apart.2.2 inside

/-! ## Relative texts -/

/-- What a path is relative to one that it lies below is what leads to it from there. -/
theorem relativeTo?_eq_some_iff {path base relative : Path} :
    path.relativeTo? base = some relative ↔ ∃ chain, relative = ⟨0, chain⟩ ∧ path = base.below chain := by
  unfold relativeTo?
  by_cases slashes : path.slashes = base.slashes
  · rw [if_pos slashes, Option.map_eq_some_iff]
    constructor
    · rintro ⟨chain, found, rfl⟩
      have parts := List.isPrefixOf?_eq_some_iff_append_eq.mp found
      exact ⟨chain, rfl, Path.mk.injEq .. ▸ ⟨slashes, parts.symm⟩⟩
    · rintro ⟨chain, rfl, rfl⟩
      exact ⟨chain, List.isPrefixOf?_eq_some_iff_append_eq.mpr rfl, rfl⟩
  · rw [if_neg slashes]
    constructor
    · intro impossible
      cases impossible
    · rintro ⟨chain, -, rfl⟩
      exact absurd rfl slashes

/-- The text of a path that starts with a slash. -/
theorem head_toString {path : Path} (rooted : path.slashes ≠ 0) :
    path.toString.toList.head? = some '/' := by
  obtain ⟨slashes, parts⟩ := path
  cases slashes with
  | zero => exact absurd rfl rooted
  | succ n => simp [toString, List.replicate_succ]

/-- Names in one text, which is a single dot if there are none. -/
theorem toString_relative (names : List String) :
    (Path.mk 0 names).toString = "/".intercalate (if names = [] then ["."] else names) := by
  cases names with
  | nil => rfl
  | cons name rest => simp [toString]

/-- A text of valid names starts with no slash. -/
theorem head_relative {names : List String} (valid : ∀ name ∈ names, ValidName name) :
    (Path.mk 0 names).toString.toList.head? ≠ some '/' := by
  cases names with
  | nil => decide
  | cons name rest =>
    have first := valid name List.mem_cons_self
    obtain ⟨more, start⟩ : ∃ more,
        (Path.mk 0 (name :: rest)).toString.toList = name.toList ++ more := by
      rw [toString_relative, if_neg (List.cons_ne_nil _ _), String.toList_intercalate,
        List.map_cons]
      cases rest with
      | nil => exact ⟨[], by simp⟩
      | cons next later =>
        rw [List.map_cons, List.intercalate_cons_cons, List.append_assoc]
        exact ⟨_, rfl⟩
    intro slash
    cases spelled : name.toList with
    | nil => exact first.nonempty (String.toList_eq_nil_iff.mp spelled)
    | cons c cs =>
      rw [start, spelled] at slash
      refine first.noSlash ?_
      rw [spelled, Option.some.inj slash]
      exact List.mem_cons_self

/-- What is no valid name and has no slash is not the text of valid names. -/
theorem joined_ne {names : List String} (nonempty : names ≠ [])
    (valid : ∀ name ∈ names, ValidName name) {text : String} (noSlash : '/' ∉ text.toList)
    (noName : ¬ValidName text) : "/".intercalate names ≠ text := by
  intro same
  have split := splitOn_joined nonempty fun name member => (valid name member).noSlash
  rw [same, List.splitOn_eq_singleton noSlash] at split
  have only : names = [text] :=
    List.map_injective_iff.mpr (fun _ _ => String.toList_inj.mp) split.symm
  exact noName (valid text (only ▸ List.mem_singleton_self text))

/-- Valid names can be told from their text. -/
theorem toString_relative_injective {first second : List String}
    (validFirst : ∀ name ∈ first, ValidName name) (validSecond : ∀ name ∈ second, ValidName name)
    (h : (Path.mk 0 first).toString = (Path.mk 0 second).toString) : first = second := by
  have noName : ¬ValidName "." := fun valid => valid.noDot rfl
  have apart : ∀ names : List String, names ≠ [] → (∀ name ∈ names, ValidName name) →
      "/".intercalate names ≠ "." :=
    fun names nonempty valid => joined_ne nonempty valid (by decide) noName
  rw [toString_relative, toString_relative] at h
  by_cases noFirst : first = []
  · by_cases noSecond : second = []
    · rw [noFirst, noSecond]
    · rw [if_pos noFirst, if_neg noSecond] at h
      exact absurd h.symm (apart second noSecond validSecond)
  · by_cases noSecond : second = []
    · rw [if_neg noFirst, if_pos noSecond] at h
      exact absurd h (apart first noFirst validFirst)
    · rw [if_neg noFirst, if_neg noSecond] at h
      exact joined_injective noFirst noSecond validFirst validSecond h

/-- Of two paths beneath a path that starts with a slash, just one of which lies below a base, just
the other one's text starts with a slash. -/
theorem Beneath.relative_ne {inner outer root base relative : Path} (rooted : root.slashes ≠ 0)
    (left : inner.Beneath root) (right : outer.Beneath root)
    (inside : inner.relativeTo? base = some relative) (outside : outer.relativeTo? base = none) :
    relative.toString ≠ outer.toString := by
  obtain ⟨names, -, valid, rfl⟩ := left
  obtain ⟨others, -, -, rfl⟩ := right
  obtain ⟨chain, rfl, split⟩ := relativeTo?_eq_some_iff.mp inside
  obtain ⟨slashes, parts⟩ := Path.mk.inj split
  intro same
  rcases List.append_eq_append_iff.mp parts with ⟨more, longer, tail⟩ | ⟨more, longer, tail⟩
  · have slash : (root.below others).toString.toList.head? = some '/' := head_toString rooted
    rw [← same] at slash
    refine head_relative (fun name member => valid name ?_) slash
    rw [tail]
    exact List.mem_append_right _ member
  · -- Then the base lies above the root, and so the other path lies below it, too.
    have below : root.below others = base.below (more ++ others) := by
      rw [← below_below]
      exact Path.mk.injEq .. ▸ ⟨slashes, by rw [below, longer]⟩
    have found := relativeTo?_eq_some_iff.mpr ⟨_, rfl, below⟩
    rw [outside] at found
    cases found

/-- Paths beneath a path that lie below a base can be told apart by what leads to them from there. -/
theorem Beneath.eq_of_chains {root base : Path} {first second : List String}
    (left : (base.below first).Beneath root) (right : (base.below second).Beneath root)
    (h : (Path.mk 0 first).toString = (Path.mk 0 second).toString) : first = second := by
  obtain ⟨names, nonempty, valid, same⟩ := left
  obtain ⟨others, nonempty', valid', same'⟩ := right
  obtain ⟨slashes, parts⟩ := Path.mk.inj same
  -- The names are valid behind the root only, which may lie above the base or below it.
  rcases List.append_eq_append_iff.mp parts with ⟨more, longer, tail⟩ | ⟨more, longer, tail⟩
  · have under : root = base.below more := Path.mk.injEq .. ▸ ⟨slashes.symm, longer⟩
    rw [under, below_below] at same'
    have tail' := below_injective base same'
    rw [tail, tail'] at h ⊢
    rw [toString_below_injective (Path.mk 0 more) nonempty nonempty' valid valid' h]
  · have outer : base = root.below more := Path.mk.injEq .. ▸ ⟨slashes, longer⟩
    rw [outer, below_below] at same'
    have tail' := below_injective root same'
    refine toString_relative_injective (fun name member => ?_) (fun name member => ?_) h
    · exact valid name (tail ▸ List.mem_append_right _ member)
    · exact valid' name (tail' ▸ List.mem_append_right _ member)

/-- Paths beneath a path that starts with a slash can be told apart by their texts relative to any
path. -/
theorem Beneath.eq_of_relativeText {first second root : Path} (rooted : root.slashes ≠ 0)
    (base : Path) (left : first.Beneath root) (right : second.Beneath root)
    (h : first.relativeText base = second.relativeText base) : first = second := by
  unfold relativeText at h
  cases one : first.relativeTo? base with
  | none =>
    cases two : second.relativeTo? base with
    | none =>
      rw [one, two] at h
      exact left.eq_of_toString right h
    | some relative =>
      rw [one, two] at h
      exact absurd h.symm (right.relative_ne rooted left two one)
  | some relative =>
    cases two : second.relativeTo? base with
    | none =>
      rw [one, two] at h
      exact absurd h (left.relative_ne rooted right one two)
    | some relative' =>
      rw [one, two] at h
      obtain ⟨chain, rfl, rfl⟩ := relativeTo?_eq_some_iff.mp one
      obtain ⟨chain', rfl, rfl⟩ := relativeTo?_eq_some_iff.mp two
      rw [left.eq_of_chains right h]

/-- A path that lies beneath another one has another text, too. -/
theorem Beneath.toString_ne {path root : Path} (h : path.Beneath root) :
    path.toString ≠ root.toString := by
  obtain ⟨chain, nonempty, valid, rfl⟩ := h
  rw [toString_below root nonempty]
  obtain ⟨slashes, parts⟩ := root
  have noEmpty : "/".intercalate chain ≠ "" :=
    joined_ne nonempty valid (by decide) fun name => name.nonempty rfl
  cases parts with
  | cons part rest =>
    intro same
    rw [toString, if_neg (by simp)] at same
    dsimp only at same
    rw [String.intercalate_append_of_ne_nil (List.cons_ne_nil part rest) nonempty] at same
    have longer := congrArg (fun text => text.toList.length) same
    simp at longer
  | nil =>
    cases slashes with
    | zero =>
      have noDot : "/".intercalate chain ≠ "." :=
        joined_ne nonempty valid (by decide) fun name => name.noDot rfl
      intro same
      exact noDot (by simpa [toString] using same)
    | succ n =>
      intro same
      exact noEmpty (by simpa [toString] using same)

/-- Paths in the same path can be told apart by their texts. -/
theorem Within.eq_of_toString {first second root : Path} (left : first.Within root)
    (right : second.Within root) (h : first.toString = second.toString) : first = second := by
  rcases left with rfl | below
  · rcases right with rfl | beside
    · rfl
    · exact absurd h.symm beside.toString_ne
  · rcases right with rfl | beside
    · exact absurd h below.toString_ne
    · exact below.eq_of_toString beside h

end Path

/-! ## What comes up in a walk -/

/-- The path that comes up in a visit, if one does. -/
def Visit.subject? : Visit → Option Path
  | .listed _ => none
  | .candidate path => some path
  | .failed path _ => some path

/-- The path that comes up in a stretch, if one does. -/
def Stretch.subject? (s : Stretch) : Option Path :=
  s.visit?.bind Visit.subject?

namespace Walk

/-- The paths that come up in a walk: candidates, and what the walk fails at. -/
def subjects (walk : Walk) : List Path :=
  walk.visits.filterMap Visit.subject?

/-- Candidates come up. -/
theorem candidates_sublist (walk : Walk) : walk.candidates.Sublist walk.subjects := by
  unfold candidates subjects
  induction walk.visits with
  | nil => exact List.Sublist.slnil
  | cons visit rest ih =>
    cases visit with
    | listed directory => exact ih
    | candidate path => exact ih.cons_cons path
    | failed path failure => exact ih.cons path

/-- What comes up in a walk comes up in one of its stretches. -/
theorem subjects_ofCourse (course : List Stretch) :
    (ofCourse course).subjects.Sublist (course.filterMap Stretch.subject?) := by
  have some_ := (visits_ofCourse course).sublist.filterMap Visit.subject?
  rwa [List.filterMap_filterMap] at some_

/-- What comes up in a walk is in a place, and never comes up twice. -/
structure Confined (walk : Walk) (place : Path → Prop) : Prop where
  inside : ∀ p ∈ walk.subjects, place p
  once : walk.subjects.Nodup

end Walk

namespace WalkPlan

variable {plan : WalkPlan} {site : Site} {followLinks : Bool} {path : Path}

/-- Of what is met at a path, no more comes up or is listed later than the path, and not both. -/
theorem meet_cases (path : Path) (entry : Entry) :
    let met := plan.meet site followLinks path entry
    met.1.subject? = none ∧ met.2 = none ∨ met.1.subject? = some path ∧ met.2 = none ∨
      met.1.subject? = none ∧ met.2 = some path := by
  unfold meet
  split
  · exact Or.inl ⟨rfl, rfl⟩
  · exact Or.inl ⟨rfl, rfl⟩
  · dsimp only
    split
    · exact Or.inr (Or.inr ⟨rfl, rfl⟩)
    · exact Or.inl ⟨rfl, rfl⟩
    · exact Or.inr (Or.inl ⟨rfl, rfl⟩)
    · split
      · exact Or.inl ⟨rfl, rfl⟩
      · exact Or.inl ⟨rfl, rfl⟩
      · exact Or.inr (Or.inl ⟨rfl, rfl⟩)

/-- What comes up in some entries and what is to be listed later are some of these entries, each
once. -/
theorem subperm_children (plan : WalkPlan) (site : Site) (followLinks : Bool) (path : Path)
    (entries : List (String × Entry)) :
    let met := entries.map fun e => plan.meet site followLinks (path.child e.1) e.2
    ((met.map Prod.fst).filterMap Stretch.subject? ++ met.filterMap Prod.snd).Subperm
      (entries.map fun e => path.child e.1) := by
  induction entries with
  | nil => exact List.Subperm.refl _
  | cons e rest ih =>
    simp only [List.map_cons] at ih ⊢
    rcases @meet_cases plan site followLinks (path.child e.1) e.2
      with ⟨quiet, leaf⟩ | ⟨comes, leaf⟩ | ⟨quiet, leads⟩
    · rw [List.filterMap_cons_none quiet, List.filterMap_cons_none leaf]
      exact ih.trans (List.sublist_cons_self _ _).subperm
    · rw [List.filterMap_cons_some comes, List.filterMap_cons_none leaf, List.cons_append]
      exact (List.subperm_cons _).mpr ih
    · rw [List.filterMap_cons_none quiet, List.filterMap_cons_some leads]
      exact List.perm_middle.subperm.trans ((List.subperm_cons _).mpr ih)

/-- What comes up in a round and what is to be listed later lies apart, and lies in the directory. -/
theorem round_apart (plan : WalkPlan) (followLinks : Bool) (tree : site.files.WellFormed)
    (path : Path) :
    ((plan.round site followLinks path).1.filterMap Stretch.subject? ++
        (plan.round site followLinks path).2).Pairwise Path.Apart ∧
      ∀ p ∈ (plan.round site followLinks path).1.filterMap Stretch.subject? ++
        (plan.round site followLinks path).2, p.Within path := by
  unfold round
  cases listed : site.entriesOf path with
  | error fault =>
    exact ⟨List.pairwise_singleton _ _, List.forall_mem_singleton.mpr (Or.inl rfl)⟩
  | ok entries =>
    have wellFormed := site.entriesOf_wellFormed tree listed
    have some_ := subperm_children plan site followLinks path entries
    have children : (entries.map fun e => path.child e.1).Pairwise Path.Apart := by
      have differ : entries.Pairwise fun e e' => e.1 ≠ e'.1 :=
        List.pairwise_map.mp wellFormed.distinct
      exact List.pairwise_map.mpr (differ.imp (Path.children_apart path))
    dsimp only
    rw [List.filterMap_cons_none rfl]
    constructor
    · obtain ⟨same, perm, among⟩ := some_
      exact (perm.pairwise_iff fun {_ _} apart => apart.symm).mp (children.sublist among)
    · intro p member
      obtain ⟨e, among, rfl⟩ := List.mem_map.mp (some_.subset member)
      exact Or.inr (Path.beneath_child (wellFormed.valid e among) path)

end WalkPlan

/-! ## Round after round -/

namespace Exploration

variable {plan : WalkPlan} {site : Site} {followLinks : Bool} {root : Path} {x y : Exploration}

/-- What has come up, and then what is to be listed. -/
def claimed (x : Exploration) : List Path :=
  x.course.filterMap Stretch.subject? ++ x.stack

/-- What has come up and what is to be listed lies apart, and lies in the root. -/
structure Scattered (root : Path) (x : Exploration) : Prop where
  apart : x.claimed.Pairwise Path.Apart
  inside : ∀ p ∈ x.claimed, p.Within root

/-- In a round, what comes up in a directory and its subdirectories take the place of the directory. -/
theorem Scattered.next (tree : site.files.WellFormed) (h : Scattered root x)
    (goes : x.next? plan site followLinks = some y) : Scattered root y := by
  obtain ⟨apart, inside⟩ := h
  unfold claimed at apart inside
  obtain ⟨path, stack, pending, ⟨-, rfl⟩ | ⟨-, rfl⟩⟩ := next_eq_some_iff.mp goes
  · rw [pending] at apart inside
    have fewer := (List.sublist_cons_self path stack).append_left
      (x.course.filterMap Stretch.subject?)
    exact ⟨apart.sublist fewer, fun p member => inside p (fewer.subset member)⟩
  · obtain ⟨apartHere, insideHere⟩ := plan.round_apart followLinks tree path
    rw [pending] at apart inside
    obtain ⟨apartBefore, apartStack, apartBoth⟩ := List.pairwise_append.mp apart
    obtain ⟨apartPath, apartRest⟩ := List.pairwise_cons.mp apartStack
    have within := inside path (by simp)
    constructor
    · unfold claimed
      dsimp only
      rw [List.filterMap_append, List.append_assoc, ← List.append_assoc _ _ stack]
      refine List.pairwise_append.mpr
        ⟨apartBefore, List.pairwise_append.mpr ⟨apartHere, apartRest, ?_⟩, ?_⟩
      · intro p new q old
        exact (apartPath q old).within (insideHere p new)
      · intro p before q later
        rcases List.mem_append.mp later with new | old
        · exact ((apartBoth p before path List.mem_cons_self).symm.within (insideHere q new)).symm
        · exact apartBoth p before q (List.mem_cons_of_mem path old)
    · intro p member
      unfold claimed at member
      dsimp only at member
      rw [List.filterMap_append, List.append_assoc, ← List.append_assoc _ _ stack,
        List.mem_append, List.mem_append] at member
      rcases member with before | new | old
      · exact inside p (List.mem_append_left _ before)
      · exact (insideHere p new).trans within
      · exact inside p (List.mem_append_right _ (List.mem_cons_of_mem path old))

end Exploration

namespace WalkPlan

variable {site : Site}

/-- What comes up in a walk lies in its root, and never comes up twice. -/
theorem confined_walk (plan : WalkPlan) (tree : site.files.WellFormed) (followLinks : Bool) :
    (plan.walk site followLinks).Confined (·.Within plan.root) := by
  have start : Exploration.Scattered plan.root { stack := [plan.root] } :=
    ⟨List.pairwise_singleton _ _, List.forall_mem_singleton.mpr (Or.inl rfl)⟩
  have whole := @Exploration.explore_induction plan site followLinks { stack := [plan.root] }
    (Exploration.Scattered plan.root) start fun x y before goes => before.next tree goes
  have some_ := Walk.subjects_ofCourse (plan.course site followLinks)
  constructor
  · exact fun p member => whole.inside p (List.mem_append_left _ (some_.subset member))
  · have apart := (List.pairwise_append.mp whole.apart).1
    exact (apart.imp fun {_ _} lie => lie.1).sublist some_

/-- A walk comes to no file twice. -/
theorem candidates_nodup (plan : WalkPlan) (tree : site.files.WellFormed) (followLinks : Bool) :
    (plan.walk site followLinks).candidates.Nodup :=
  (plan.confined_walk tree followLinks).once.sublist (Walk.candidates_sublist _)

end WalkPlan

end DocGraph
