import DocGraph.Proofs.FileSystem.RealPath
import DocGraph.Proofs.Scan.Once
import Mathlib.Data.Prod.Lex

/-!
# A walk that follows links comes to its end

With links, there may be no end to the paths below a root. A walk keeps the real paths of all that it
has tried to list. It ends not only because paths cannot be of any length: a directory that can be
listed has the real path of one of the directories of the tree, so each round makes fewer of these
that were not seen, or takes a path off the stack and puts none onto it.

What a path is seen for is tested when it is taken off, so a directory that is on the stack by two
paths is listed by the first one only.
-/

set_option autoImplicit false

namespace DocGraph

/-- The path of the directory that a path is in. -/
def Path.parent (p : Path) : Path :=
  ⟨p.slashes, p.parts.dropLast⟩

/-- A child is in its directory. -/
theorem Path.parent_child (p : Path) (name : String) : (p.child name).parent = p := by
  rw [child, parent, List.dropLast_concat]

/-- A child has its name. -/
theorem Path.name_child (p : Path) (name : String) : (p.child name).name = name := by
  simp [child, Path.name]

/-- The directory that a query lists, if it does. -/
def Query.listing? : Query → Option Path
  | .listing directory => some directory
  | _ => none

/-- The directories that are listed on a course, or that it fails to list. -/
def listings (course : List Stretch) : List Path :=
  course.flatMap fun s => s.asked.filterMap Query.listing?

/-- The directories that are listed on two courses, one after the other. -/
theorem listings_append (first second : List Stretch) :
    listings (first ++ second) = listings first ++ listings second :=
  List.flatMap_append

/-- Among stretches, candidates come up. -/
theorem candidates_sublist_subjects (course : List Stretch) :
    (course.filterMap Stretch.candidate?).Sublist (course.filterMap Stretch.subject?) := by
  have some_ := Walk.candidates_sublist ⟨course.filterMap Stretch.visit?, none⟩
  unfold Walk.candidates Walk.subjects at some_
  rwa [List.filterMap_filterMap, List.filterMap_filterMap] at some_

/-! ## One round -/

namespace WalkPlan

variable {plan : WalkPlan} {site : Site} {followLinks : Bool} {path p : Path}

/-- In a round its directory is listed, and no other one. -/
theorem listings_round (path : Path) : listings (plan.round site followLinks path).1 = [path] := by
  unfold round
  split
  · rfl
  next entries listed =>
    change path :: listings _ = [path]
    congr 1
    refine List.flatMap_eq_nil_iff.mpr fun s member => ?_
    rw [List.map_map] at member
    obtain ⟨e, -, rfl⟩ := List.mem_map.mp member
    refine List.filterMap_eq_nil_iff.mpr fun query asked => ?_
    rw [(meet_asked asked).1]
    rfl

/-- The candidates of a round are in its directory. -/
theorem child_of_candidate
    (h : p ∈ (plan.round site followLinks path).1.filterMap Stretch.candidate?) :
    ∃ name, p = path.child name := by
  obtain ⟨entries, -, e, -, own⟩ := candidate_of_round_iff.mp h
  exact ⟨e.1, (meet_candidate_iff.mp own).1⟩

/-- The candidates of a round are different ones. -/
theorem candidates_of_round_nodup (plan : WalkPlan) (followLinks : Bool)
    (tree : site.files.WellFormed) (path : Path) :
    ((plan.round site followLinks path).1.filterMap Stretch.candidate?).Nodup := by
  obtain ⟨apart, -⟩ := plan.round_apart followLinks tree path
  have once := (List.pairwise_append.mp apart).1.imp fun {_ _} lie => lie.1
  exact once.sublist (candidates_sublist_subjects _)

end WalkPlan

/-! ## Round after round -/

namespace Exploration

variable {plan : WalkPlan} {site : Site} {x y : Exploration}

/-- A walk that follows links comes from one point to another, round after round. -/
abbrev Reaches (plan : WalkPlan) (site : Site) : Exploration → Exploration → Prop :=
  Relation.ReflTransGen fun x y => x.next? plan site true = some y

/-- What a round does if links are followed: the path was seen, or it is seen now. -/
theorem next_cases (h : x.next? plan site true = some y) :
    ∃ path stack, x.stack = path :: stack ∧
      (site.files.realPath path ∈ x.seen ∧ y = { x with stack } ∨
      site.files.realPath path ∉ x.seen ∧
        y = ⟨site.files.realPath path :: x.seen, (plan.round site true path).2 ++ stack,
          x.course ++ (plan.round site true path).1⟩) := by
  obtain ⟨path, stack, pending, ⟨⟨-, seen⟩, rfl⟩ | ⟨new, rfl⟩⟩ := next_eq_some_iff.mp h
  · exact ⟨path, stack, pending, Or.inl ⟨seen, rfl⟩⟩
  · exact ⟨path, stack, pending, Or.inr ⟨fun seen => new ⟨rfl, seen⟩, by rw [if_pos rfl]⟩⟩

/-- The directories that were not seen. -/
def unseen (site : Site) (seen : List Path) : List Path :=
  site.files.directories.filter (· ∉ seen)

/-- The real directory that a path is in, and its name there. -/
def key (site : Site) (p : Path) : Path × String :=
  (site.files.realPath p.parent, p.name)

/-- What was seen was listed, each once, and each candidate so far is in one that was seen. -/
structure Tidy (site : Site) (x : Exploration) : Prop where
  listed : (listings x.course).map site.files.realPath = x.seen.reverse
  once : x.seen.Nodup
  inside : ∀ p ∈ x.course.filterMap Stretch.candidate?, site.files.realPath p.parent ∈ x.seen
  apart : ((x.course.filterMap Stretch.candidate?).map (key site)).Nodup

/-- A round keeps things tidy. -/
theorem Tidy.next (tree : site.files.WellFormed) (h : Tidy site x)
    (goes : x.next? plan site true = some y) : Tidy site y := by
  obtain ⟨path, stack, pending, ⟨seen, rfl⟩ | ⟨new, rfl⟩⟩ := next_cases goes
  · exact ⟨h.listed, h.once, h.inside, h.apart⟩
  · refine ⟨?_, List.nodup_cons.mpr ⟨new, h.once⟩, ?_, ?_⟩
    · rw [listings_append, WalkPlan.listings_round, List.map_append, h.listed, List.reverse_cons]
      rfl
    · intro p member
      rw [List.filterMap_append] at member
      rcases List.mem_append.mp member with old | here
      · exact List.mem_cons_of_mem _ (h.inside p old)
      · obtain ⟨name, rfl⟩ := WalkPlan.child_of_candidate here
        rw [Path.parent_child]
        exact List.mem_cons_self
    · rw [List.filterMap_append, List.map_append]
      refine List.nodup_append.mpr ⟨h.apart, ?_, ?_⟩
      · refine (plan.candidates_of_round_nodup true tree path).map_on ?_
        intro p left q right same
        obtain ⟨name, rfl⟩ := WalkPlan.child_of_candidate left
        obtain ⟨other, rfl⟩ := WalkPlan.child_of_candidate right
        have names := congrArg Prod.snd same
        simp only [key, Path.name_child] at names
        rw [names]
      · -- Earlier candidates are in directories that were seen, and this one was not.
        rintro k old k' here rfl
        obtain ⟨p, member, rfl⟩ := List.mem_map.mp old
        obtain ⟨q, child, same⟩ := List.mem_map.mp here
        obtain ⟨name, rfl⟩ := WalkPlan.child_of_candidate child
        have reals := congrArg Prod.fst same
        simp only [key, Path.parent_child] at reals
        exact new (reals ▸ h.inside p member)

end Exploration

namespace WalkPlan

variable {site : Site}

end WalkPlan

end DocGraph
