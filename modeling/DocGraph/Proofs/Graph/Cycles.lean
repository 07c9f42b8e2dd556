import DocGraph.Graph.Validation
import Mathlib.Data.List.Nodup
import Mathlib.Logic.Relation

/-!
# The search for cycles

A module depends on the modules that its references resolve to. The search goes depth first and
keeps the way it has come. `Chained` says that a way is one: each module on it depends on the next.
So when the URI of a module on the way is met again, there is a cycle, as long as URIs tell modules
apart.

The other way round, a module is `Settled` if no chain of dependencies from it goes on forever.
While the search goes on, a module whose URI was seen is settled or on the way, and `Waits` says of
the modules on the way that what is not pending is settled, but for the next module on the way.
So when the search is over without having met a cycle, all modules that were seen are settled.
-/

set_option autoImplicit false

namespace DocGraph

namespace Graph

/-- A module depends on another if one of its references resolves to that. -/
def DependsOn (g : Graph) (m n : Module) : Prop :=
  ∃ reference ∈ m.dependencies, g.find? reference = some n

/-- The URIs of modules tell them apart. -/
def UrisDiffer (g : Graph) : Prop :=
  ∀ m ∈ g.modules.modules, ∀ n ∈ g.modules.modules, m.uri = n.uri → m = n

/-- No chain of dependencies from a module goes on forever. -/
def Settled (g : Graph) (m : Module) : Prop :=
  Acc (fun n m => g.DependsOn m n) m

variable {g : Graph} {m n : Module}

/-- A reference resolves to a module of the graph. -/
theorem mem_of_resolve {reference : String} {entry : String × Module}
    (h : resolve? g.modules reference = some entry) : entry.2 ∈ g.modules.modules :=
  List.mem_map_of_mem (resolve?_mem h)

/-- The module that a reference resolves to is that of the entry that it resolves to. -/
theorem find_of_resolve {reference : String} {entry : String × Module}
    (h : resolve? g.modules reference = some entry) : g.find? reference = some entry.2 := by
  rw [find?, h]
  rfl

/-- A reference that resolves to nothing has no module. -/
theorem find_of_resolve_none {reference : String} (h : resolve? g.modules reference = none) :
    g.find? reference = none := by
  rw [find?, h]
  rfl

/-- What a module depends on is in the graph. -/
theorem DependsOn.mem (h : g.DependsOn m n) : n ∈ g.modules.modules := by
  obtain ⟨reference, -, found⟩ := h
  obtain ⟨entry, resolved, rfl⟩ := Option.map_eq_some_iff.mp found
  exact mem_of_resolve resolved

/-- If URIs differ, modules with the same URI are the same. -/
theorem urisDiffer_of_nodup (h : (g.modules.map fun e => e.2.uri).Nodup) : g.UrisDiffer := by
  intro m left n right same
  obtain ⟨e, he, rfl⟩ := List.mem_map.mp left
  obtain ⟨f, hf, rfl⟩ := List.mem_map.mp right
  rw [List.inj_on_of_nodup_map h he hf same]

/-! ## A cycle that is found is one -/

/-- A way of the search, innermost module first. Each module on it depends on the one that comes
next, and what is pending are references of the module. -/
inductive Chained (g : Graph) : Module → List Frame → Prop where
  | start {m : Module} {pending : List String} (member : m ∈ g.modules.modules)
      (own : ∀ reference ∈ pending, reference ∈ m.dependencies) :
      Chained g m [⟨m.uri, pending⟩]
  | step {m n : Module} {pending : List String} {way : List Frame} (before : Chained g m way)
      (depends : g.DependsOn m n) (own : ∀ reference ∈ pending, reference ∈ n.dependencies) :
      Chained g n (⟨n.uri, pending⟩ :: way)

/-- The innermost module of a way is in the graph. -/
theorem Chained.mem {way : List Frame} (h : g.Chained m way) : m ∈ g.modules.modules := by
  cases h with
  | start member own => exact member
  | step before depends own => exact depends.mem

/-- A reference fewer is pending. -/
theorem Chained.skip {uri reference : String} {pending : List String} {way : List Frame}
    (h : g.Chained m (⟨uri, reference :: pending⟩ :: way)) :
    g.Chained m (⟨uri, pending⟩ :: way) := by
  cases h with
  | start member own => exact .start member fun r pends => own r (List.mem_cons_of_mem _ pends)
  | step before depends own =>
    exact .step before depends fun r pends => own r (List.mem_cons_of_mem _ pends)

/-- The first pending reference is one of the innermost module, which has the URI that stands on
the way. -/
theorem Chained.head {uri reference : String} {pending : List String} {way : List Frame}
    (h : g.Chained m (⟨uri, reference :: pending⟩ :: way)) :
    m.uri = uri ∧ reference ∈ m.dependencies := by
  cases h with
  | start member own => exact ⟨rfl, own _ List.mem_cons_self⟩
  | step before depends own => exact ⟨rfl, own _ List.mem_cons_self⟩

/-- From each module further out the innermost one is reached. -/
theorem Chained.reaches {frame : Frame} {way : List Frame} (h : g.Chained m (frame :: way)) :
    ∀ f ∈ way, ∃ outer ∈ g.modules.modules, outer.uri = f.uri ∧
      Relation.TransGen g.DependsOn outer m := by
  generalize whole : frame :: way = all at h
  induction h generalizing frame way with
  | start member own =>
    cases whole
    intro f impossible
    cases impossible
  | @step m n pending rest before depends own ih =>
    cases whole
    intro f on
    cases rest with
    | nil => cases on
    | cons next further =>
      rcases List.mem_cons.mp on with rfl | later
      · refine ⟨m, before.mem, ?_, .single depends⟩
        cases before with
        | start => rfl
        | step => rfl
      · obtain ⟨outer, member, same, path⟩ := ih rfl f later
        exact ⟨outer, member, same, path.tail depends⟩

/-- Without its innermost module a way is over or still one. -/
theorem Chained.pop {frame : Frame} {way : List Frame} (h : g.Chained m (frame :: way)) :
    way = [] ∨ ∃ outer, g.Chained outer way := by
  cases h with
  | start member own => exact Or.inl rfl
  | step before depends own => exact Or.inr ⟨_, before⟩

/-- When the search finds a cycle, there is one. -/
theorem exists_cycle (differ : g.UrisDiffer) (seen : List String) (way : List Frame)
    (chained : way = [] ∨ ∃ m, g.Chained m way)
    (found : (cycleFrom g.modules seen way).1 = true) :
    ∃ m, Relation.TransGen g.DependsOn m m := by
  fun_induction cycleFrom g.modules seen way with
  | case1 seen => cases found
  | case2 seen uri way ih =>
    obtain ⟨m, chain⟩ := chained.resolve_left (List.cons_ne_nil _ _)
    exact ih chain.pop found
  | case3 seen uri reference pending way missing ih =>
    obtain ⟨m, chain⟩ := chained.resolve_left (List.cons_ne_nil _ _)
    exact ih (Or.inr ⟨m, chain.skip⟩) found
  | case4 seen uri reference pending way entry resolved met =>
    obtain ⟨m, chain⟩ := chained.resolve_left (List.cons_ne_nil _ _)
    obtain ⟨here, own⟩ := chain.head
    have depends : g.DependsOn m entry.2 := ⟨reference, own, find_of_resolve resolved⟩
    rw [Bool.or_eq_true, decide_eq_true_eq, List.any_eq_true] at met
    -- What was met again is the module itself or one further out.
    rcases met with self | ⟨frame, on, same⟩
    · have again : entry.2 = m := differ _ depends.mem _ chain.mem (self.trans here.symm)
      rw [again] at depends
      exact ⟨m, .single depends⟩
    · obtain ⟨outer, member, uri_eq, path⟩ := chain.reaches frame on
      rw [decide_eq_true_eq] at same
      have again : entry.2 = outer := differ _ depends.mem _ member (same.symm.trans uri_eq.symm)
      rw [again] at depends
      exact ⟨outer, path.tail depends⟩
  | case5 seen uri reference pending way entry resolved unmet old ih =>
    obtain ⟨m, chain⟩ := chained.resolve_left (List.cons_ne_nil _ _)
    exact ih (Or.inr ⟨m, chain.skip⟩) found
  | case6 seen uri reference pending way entry resolved unmet new ih =>
    obtain ⟨m, chain⟩ := chained.resolve_left (List.cons_ne_nil _ _)
    have depends : g.DependsOn m entry.2 := ⟨reference, chain.head.2, find_of_resolve resolved⟩
    exact ih (Or.inr ⟨entry.2, .step chain.skip depends fun r own => own⟩) found

/-- Without a cycle, none is found from any of the modules. -/
theorem cyclesFrom_eq_nil (differ : g.UrisDiffer)
    (acyclic : ¬∃ m, Relation.TransGen g.DependsOn m m) (seen : List String) (ms : ModuleMap)
    (within : ∀ e ∈ ms, e ∈ g.modules) : cyclesFrom g.modules seen ms = [] := by
  induction ms generalizing seen with
  | nil => rfl
  | cons e rest ih =>
    have later : ∀ f ∈ rest, f ∈ g.modules := fun f member =>
      within f (List.mem_cons_of_mem _ member)
    have member : e.2 ∈ g.modules.modules := List.mem_map_of_mem (within e List.mem_cons_self)
    have start : g.Chained e.2 [⟨e.2.uri, e.2.dependencies⟩] := .start member fun r own => own
    rw [cyclesFrom]
    by_cases old : e.2.uri ∈ seen
    · rw [if_pos old]
      exact ih seen later
    · rw [if_neg old]
      split
      next after found =>
        have cycle := exists_cycle differ _ _ (Or.inr ⟨e.2, start⟩) (by rw [found])
        exact absurd cycle acyclic
      next after nothing => exact ih after later

/-! ## When no cycle is found there is none -/

/-- What the modules on a way wait for, innermost first: each reference of a module is pending, or
resolves to nothing but a module that is settled or the one that the module waits for. The innermost
one waits for what has a property, and each other one for the next module on the way. -/
inductive Waits (g : Graph) : (Module → Prop) → List Frame → Prop where
  | nil {P : Module → Prop} : Waits g P []
  | frame {P : Module → Prop} {m : Module} {pending : List String} {way : List Frame}
      (member : m ∈ g.modules.modules)
      (accounted : ∀ reference ∈ m.dependencies, reference ∈ pending ∨
        ∀ n, g.find? reference = some n → g.Settled n ∨ P n)
      (outer : Waits g (· = m) way) : Waits g P (⟨m.uri, pending⟩ :: way)

/-- What is settled need not be waited for. -/
theorem Waits.settle {P : Module → Prop} {way : List Frame} (h : g.Waits P way)
    (settled : ∀ n, P n → g.Settled n) : g.Waits (fun _ => False) way := by
  cases h with
  | nil => exact .nil
  | frame member accounted outer =>
    refine .frame member (fun reference own => ?_) outer
    refine (accounted reference own).imp_right fun leads n found => Or.inl ?_
    exact (leads n found).elim id (settled n)

/-- A module with nothing pending is settled, and the modules further out wait for nothing but what
is pending. -/
theorem Waits.pop {uri : String} {way : List Frame}
    (h : g.Waits (fun _ => False) (⟨uri, []⟩ :: way)) :
    (∃ m ∈ g.modules.modules, m.uri = uri ∧ g.Settled m) ∧ g.Waits (fun _ => False) way := by
  cases h with
  | @frame _ m _ _ member accounted outer =>
    have settled : g.Settled m := by
      refine Acc.intro m ?_
      rintro n ⟨reference, own, found⟩
      rcases accounted reference own with impossible | leads
      · cases impossible
      · exact (leads n found).resolve_right id
    refine ⟨⟨m, member, rfl, settled⟩, outer.settle ?_⟩
    rintro n rfl
    exact settled

/-- A pending reference that leads to nothing but what may be waited for need not be pending. -/
theorem Waits.skip {P : Module → Prop} {uri reference : String} {pending : List String}
    {way : List Frame} (h : g.Waits (fun _ => False) (⟨uri, reference :: pending⟩ :: way))
    (leads : ∀ n, g.find? reference = some n → g.Settled n ∨ P n) :
    g.Waits P (⟨uri, pending⟩ :: way) := by
  cases h with
  | @frame _ m _ _ member accounted outer =>
    refine .frame member (fun r own => ?_) outer
    rcases accounted r own with pends | elsewhere
    · rcases List.mem_cons.mp pends with rfl | later
      · exact Or.inr leads
      · exact Or.inl later
    · exact Or.inr fun n found => Or.inl ((elsewhere n found).resolve_right id)

/-- When the search finds no cycle, the modules whose URI was seen are settled, if those were that
were seen before and are not on the way. -/
theorem settled_of_seen (differ : g.UrisDiffer) (seen : List String) (way : List Frame)
    (waits : g.Waits (fun _ => False) way)
    (before : ∀ n ∈ g.modules.modules, n.uri ∈ seen → g.Settled n ∨ n.uri ∈ way.map Frame.uri)
    (nothing : (cycleFrom g.modules seen way).1 = false) :
    (∀ uri ∈ seen, uri ∈ (cycleFrom g.modules seen way).2) ∧
      ∀ n ∈ g.modules.modules, n.uri ∈ (cycleFrom g.modules seen way).2 → g.Settled n := by
  fun_induction cycleFrom g.modules seen way with
  | case1 seen =>
    refine ⟨fun uri old => old, fun n member old => ?_⟩
    exact (before n member old).resolve_right List.not_mem_nil
  | case2 seen uri way ih =>
    -- The module that leaves the way is settled by then.
    obtain ⟨⟨m, member, here, settled⟩, rest⟩ := waits.pop
    refine ih rest (fun n inGraph old => ?_) nothing
    rcases before n inGraph old with done | on
    · exact Or.inl done
    · rcases List.mem_cons.mp on with same | further
      · have again : n = m := differ _ inGraph _ member (same.trans here.symm)
        exact Or.inl (again ▸ settled)
      · exact Or.inr further
  | case3 seen uri reference pending way missing ih =>
    refine ih (waits.skip fun n found => ?_) before nothing
    rw [find_of_resolve_none missing] at found
    cases found
  | case4 seen uri reference pending way entry resolved met => cases nothing
  | case5 seen uri reference pending way entry resolved unmet old ih =>
    -- A module that was seen is settled unless it is on the way, and then it would have been met.
    refine ih (waits.skip fun n found => Or.inl ?_) before nothing
    obtain rfl : entry.2 = n := Option.some.inj ((find_of_resolve resolved).symm.trans found)
    refine (before entry.2 (mem_of_resolve resolved) old).resolve_right fun on => unmet ?_
    rw [Bool.or_eq_true, decide_eq_true_eq, List.any_eq_true]
    rcases List.mem_cons.mp on with here | further
    · exact Or.inl here
    · obtain ⟨frame, isOn, same⟩ := List.mem_map.mp further
      exact Or.inr ⟨frame, isOn, decide_eq_true same⟩
  | case6 seen uri reference pending way entry resolved unmet new ih =>
    -- The module in front waits for the new one, which has all its references pending.
    have outer : g.Waits (· = entry.2) (⟨uri, pending⟩ :: way) :=
      waits.skip fun n found =>
        Or.inr (Option.some.inj (found.symm.trans (find_of_resolve resolved)))
    have inner : g.Waits (fun _ => False)
        (⟨entry.2.uri, entry.2.dependencies⟩ :: ⟨uri, pending⟩ :: way) :=
      .frame (mem_of_resolve resolved) (fun r own => Or.inl own) outer
    obtain ⟨more, all⟩ := ih inner (fun n inGraph old => by
      rcases List.mem_cons.mp old with same | earlier
      · exact Or.inr (List.mem_cons.mpr (Or.inl same))
      · exact (before n inGraph earlier).imp_right (List.mem_cons_of_mem _)) nothing
    exact ⟨fun u old => more u (List.mem_cons_of_mem _ old), all⟩

/-- If no cycle is found from any of the modules, they are settled. -/
theorem settled_of_cyclesFrom (differ : g.UrisDiffer) (seen : List String) (ms : ModuleMap)
    (within : ∀ e ∈ ms, e ∈ g.modules)
    (before : ∀ n ∈ g.modules.modules, n.uri ∈ seen → g.Settled n)
    (nothing : cyclesFrom g.modules seen ms = []) : ∀ e ∈ ms, g.Settled e.2 := by
  induction ms generalizing seen with
  | nil =>
    intro e impossible
    cases impossible
  | cons first rest ih =>
    have later : ∀ f ∈ rest, f ∈ g.modules := fun f member =>
      within f (List.mem_cons_of_mem _ member)
    have member : first.2 ∈ g.modules.modules :=
      List.mem_map_of_mem (within first List.mem_cons_self)
    rw [cyclesFrom] at nothing
    by_cases old : first.2.uri ∈ seen
    · rw [if_pos old] at nothing
      exact List.forall_mem_cons.mpr ⟨before _ member old, ih seen later before nothing⟩
    · rw [if_neg old] at nothing
      have start : g.Waits (fun _ => False) [⟨first.2.uri, first.2.dependencies⟩] :=
        .frame member (fun r own => Or.inl own) .nil
      have onWay : ∀ n ∈ g.modules.modules, n.uri ∈ first.2.uri :: seen →
          g.Settled n ∨ n.uri ∈ [first.2.uri] := by
        intro n inGraph known
        rcases List.mem_cons.mp known with same | earlier
        · exact Or.inr (List.mem_singleton.mpr same)
        · exact Or.inl (before n inGraph earlier)
      split at nothing
      · cases nothing
      next after found =>
        have searched := settled_of_seen differ (first.2.uri :: seen) _ start onWay (by rw [found])
        rw [found] at searched
        obtain ⟨more, all⟩ := searched
        exact List.forall_mem_cons.mpr
          ⟨all _ member (more _ List.mem_cons_self), ih after later all nothing⟩

/-- A settled module is on no cycle. -/
theorem Settled.acyclic (h : g.Settled m) : ¬Relation.TransGen g.DependsOn m m := by
  induction h with
  | intro m _ ih =>
    intro cycle
    obtain ⟨n, depends, back⟩ := Relation.TransGen.head'_iff.mp cycle
    exact ih n depends (Relation.TransGen.tail' back depends)

/-- The search finds nothing exactly if there is no cycle. -/
theorem cyclesFrom_eq_nil_iff (differ : g.UrisDiffer) {ms : ModuleMap}
    (same : ∀ e, e ∈ ms ↔ e ∈ g.modules) :
    cyclesFrom g.modules [] ms = [] ↔ ¬∃ m, Relation.TransGen g.DependsOn m m := by
  constructor
  · rintro nothing ⟨m, cycle⟩
    obtain ⟨n, -, depends⟩ := Relation.TransGen.tail'_iff.mp cycle
    obtain ⟨e, member, rfl⟩ := List.mem_map.mp depends.mem
    have settled := settled_of_cyclesFrom differ [] ms (fun f listed => (same f).mp listed)
      (fun _ _ impossible => absurd impossible List.not_mem_nil) nothing
    exact (settled e ((same e).mpr member)).acyclic cycle
  · intro acyclic
    exact cyclesFrom_eq_nil differ acyclic [] ms fun e member => (same e).mp member

end Graph

end DocGraph
