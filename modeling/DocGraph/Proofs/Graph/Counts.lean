import DocGraph.Proofs.Graph.Linking
import Mathlib

/-!
# Counts that keep up

A graph does not count its modules when it is asked for their number. Every module that is added or
taken away changes three counts: that of all modules, that of its language and that of its layer.
`stats_ofChanges` says that the counts are right after any number of changes, in any order.

A module may also be changed in place, and the counts by language and by layer do not follow that.
They stay right as long as no change in place gives a stored module another language or layer. It is
not enough to look at one path then: a module that is known by several paths changes for all of
them, so the groups of paths with a module in common have to be followed as well, which is what
`Sharing` does.
-/

set_option autoImplicit false

namespace DocGraph

/-! ## Histograms -/

namespace Histogram

variable {h : Histogram} {keys : List String} {key : String}

/-- What a histogram of some keys has under a key: how often that occurs. The empty key and keys
that do not occur have no entry. -/
def tally? (keys : List String) (key : String) : Option Nat :=
  if key ≠ "" ∧ 0 < keys.count key then some (keys.count key) else none

/-- A histogram has how often each key occurs among some keys, and nothing else. -/
structure Tallies (h : Histogram) (keys : List String) : Prop where
  distinct : (h.map Prod.fst).Nodup
  counts : ∀ key, h.lookup key = tally? keys key

/-- One key more changes what there is under that key, unless it is empty. -/
theorem tally_cons (key : String) (keys : List String) (other : String) :
    tally? (key :: keys) other =
      if other = key ∧ key ≠ "" then some (keys.count key + 1) else tally? keys other := by
  unfold tally?
  by_cases same : other = key
  · subst same
    rw [List.count_cons_self]
    by_cases empty : other = ""
    · simp [empty]
    · simp [empty]
  · rw [List.count_cons_of_ne (Ne.symm same)]
    simp [same]

/-- Setting a count is an alteration that ignores the old one. -/
theorem set_eq_alter (h : Histogram) (key : String) (n : Nat) :
    h.set key n = alter key (fun _ => n) h := by
  induction h with
  | nil => rfl
  | cons e rest ih => rw [set, alter, ih]

/-- The order of the keys does not matter. -/
theorem Tallies.perm (t : h.Tallies keys) {others : List String} (same : keys.Perm others) :
    h.Tallies others := by
  refine ⟨t.distinct, fun key => ?_⟩
  rw [t.counts, tally?, tally?, same.count_eq]

/-- A histogram of nothing is empty. -/
theorem Tallies.eq_nil (t : h.Tallies []) : h = [] := by
  cases h with
  | nil => rfl
  | cons e rest =>
    have found : (e :: rest).lookup e.1 = some e.2 := lookup_of_mem t.distinct List.mem_cons_self
    rw [t.counts, tally?, List.count_nil, if_neg (by simp)] at found
    cases found

/-- Counting one more. -/
theorem Tallies.increment (t : h.Tallies keys) (key : String) :
    (h.increment key).Tallies (key :: keys) := by
  unfold Histogram.increment
  by_cases empty : key = ""
  · rw [if_pos (by simp [empty])]
    refine ⟨t.distinct, fun other => ?_⟩
    rw [t.counts, tally_cons, if_neg fun both => both.2 empty]
  · have count : h.count key = keys.count key := by
      rw [Histogram.count, t.counts, tally?]
      by_cases occurs : 0 < keys.count key
      · rw [if_pos ⟨empty, occurs⟩]
        rfl
      · rw [if_neg fun both => occurs both.2]
        exact (Nat.eq_zero_of_not_pos occurs).symm
    rw [if_neg (by simpa using empty), set_eq_alter]
    refine ⟨nodup_keys_alter key _ t.distinct, fun other => ?_⟩
    rw [lookup_alter, tally_cons, count, t.counts]
    simp [empty]

/-- Counting one less. -/
theorem Tallies.decrement (t : h.Tallies (key :: keys)) : (h.decrement key).Tallies keys := by
  unfold Histogram.decrement
  by_cases empty : key = ""
  · rw [if_pos (by simp [empty])]
    refine ⟨t.distinct, fun other => ?_⟩
    rw [t.counts, tally_cons, if_neg fun both => both.2 empty]
  · have count : h.count key = keys.count key + 1 := by
      rw [Histogram.count, t.counts, tally_cons, if_pos ⟨rfl, empty⟩]
      rfl
    have others : ∀ other, other ≠ key → h.lookup other = tally? keys other := by
      intro other differ
      rw [t.counts, tally_cons, if_neg fun both => differ both.1]
    rw [if_neg (by simpa using empty), count, Nat.add_sub_cancel]
    by_cases last : keys.count key = 0
    · -- The last one of a key takes the entry with it.
      rw [if_pos (by omega)]
      refine ⟨nodup_keys_without key t.distinct, fun other => ?_⟩
      change (without key h).lookup other = _
      rw [lookup_without]
      by_cases same : other = key
      · rw [if_pos same, same, tally?, if_neg (by omega)]
      · rw [if_neg same, others other same]
    · rw [if_neg (by omega), set_eq_alter]
      refine ⟨nodup_keys_alter key _ t.distinct, fun other => ?_⟩
      rw [lookup_alter]
      by_cases same : other = key
      · rw [if_pos same, same, tally?, if_pos ⟨empty, by omega⟩]
      · rw [if_neg same, others other same]

end Histogram

/-! ## Paths with a module in common -/

namespace SharedPaths

variable {shared : SharedPaths} {path : String}

/-- The paths that have the module of a path are one of the groups, or that path alone if it is in
no group. -/
theorem group_cases (shared : SharedPaths) (path : String) :
    (shared.group path ∈ shared ∧ path ∈ shared.group path) ∨
      shared.group path = [path] ∧ ∀ paths ∈ shared, path ∉ paths := by
  unfold group
  cases found : shared.find? fun paths => path ∈ paths with
  | some paths =>
    have member : path ∈ paths := by simpa using List.find?_some found
    exact Or.inl ⟨List.mem_of_find?_eq_some found, member⟩
  | none =>
    have absent := List.find?_eq_none.mp found
    exact Or.inr ⟨rfl, fun paths member => by simpa using absent paths member⟩

/-- A path is in its own group. -/
theorem mem_group_self (shared : SharedPaths) (path : String) : path ∈ shared.group path := by
  rcases shared.group_cases path with ⟨-, inside⟩ | ⟨alone, -⟩
  · exact inside
  · rw [alone]
    exact List.mem_singleton_self path

/-- A path is in one group at most. -/
theorem eq_of_mem (apart : shared.flatten.Nodup) {first second : List String} {q : String}
    (left : first ∈ shared) (right : second ∈ shared) (inFirst : q ∈ first)
    (inSecond : q ∈ second) : first = second := by
  by_contra differ
  have symmetric : Std.Symm (List.Disjoint (α := String)) := ⟨fun _ _ h => List.Disjoint.symm h⟩
  have disjoint := (List.nodup_flatten.mp apart).2.forall left right differ
  exact disjoint inFirst inSecond

/-- A group has no path twice. -/
theorem nodup_group (apart : shared.flatten.Nodup) (path : String) : (shared.group path).Nodup := by
  rcases shared.group_cases path with ⟨listed, -⟩ | ⟨alone, -⟩
  · exact (List.nodup_flatten.mp apart).1 _ listed
  · rw [alone]
    exact List.nodup_singleton path

/-- If a path of a group has the module of another path, then the group is the one of that. -/
theorem group_eq_of_mem (apart : shared.flatten.Nodup) {paths : List String} {p : String}
    (listed : paths ∈ shared) (inside : p ∈ paths) (inGroup : p ∈ shared.group path) :
    shared.group path = paths := by
  rcases shared.group_cases path with ⟨group, -⟩ | ⟨alone, nowhere⟩
  · exact eq_of_mem apart group listed inGroup inside
  · rw [alone, List.mem_singleton] at inGroup
    exact absurd (inGroup ▸ inside) (nowhere paths listed)

/-- The paths that have the module of a path are all of a group or none of it. -/
theorem mem_group_iff (apart : shared.flatten.Nodup) {paths : List String} (listed : paths ∈ shared)
    {p q : String} (left : p ∈ paths) (right : q ∈ paths) (path : String) :
    p ∈ shared.group path ↔ q ∈ shared.group path := by
  constructor
  · intro inGroup
    rw [group_eq_of_mem apart listed left inGroup]
    exact right
  · intro inGroup
    rw [group_eq_of_mem apart listed right inGroup]
    exact left

/-- When a path is taken out, the groups are the former ones without it. -/
theorem mem_separate {paths : List String} (h : paths ∈ shared.separate path) :
    ∃ before ∈ shared, paths = before.filter (· ≠ path) := by
  obtain ⟨before, listed, rfl⟩ := List.mem_map.mp h
  exact ⟨before, listed, rfl⟩

/-- No path is in two groups after one is taken out. -/
theorem separate_apart (apart : shared.flatten.Nodup) (path : String) :
    (shared.separate path).flatten.Nodup := by
  rw [separate, ← List.filter_flatten]
  exact apart.filter _

/-- A path that is put into the group of another is in no other group. -/
theorem unite_apart (apart : shared.flatten.Nodup) (path other : String) :
    (shared.unite path other).flatten.Nodup := by
  unfold unite
  by_cases inside : path ∈ shared.group other
  · rw [if_pos inside]
    exact apart
  · rw [if_neg inside, List.flatten_cons, List.nodup_append]
    refine ⟨List.nodup_cons.mpr ⟨inside, nodup_group apart other⟩, ?_, ?_⟩
    · have fewer := List.Sublist.flatten
        (List.filter_sublist : ((shared.separate path).filter (other ∉ ·)).Sublist _)
      exact (separate_apart apart path).sublist fewer
    · -- A group that has one of the other's paths has the other, and is no longer listed.
      rintro p left q right rfl
      obtain ⟨paths, listed, inPaths⟩ := List.mem_flatten.mp right
      obtain ⟨separated, notOther⟩ := List.mem_filter.mp listed
      obtain ⟨before, group, rfl⟩ := mem_separate separated
      obtain ⟨inBefore, notPath⟩ := List.mem_filter.mp inPaths
      have differ : p ≠ path := by simpa using notPath
      have inGroup : p ∈ shared.group other := (List.mem_cons.mp left).resolve_left differ
      have itself := shared.mem_group_self other
      have otherDiffers : other ≠ path := fun same => inside (same ▸ itself)
      rw [group_eq_of_mem apart group inBefore inGroup] at itself
      simp [itself, otherDiffers] at notOther

end SharedPaths

namespace Graph

variable {g : Graph} {path : String} {m : Module}

/-- No path is in two groups, and all paths of a group have the same module. -/
structure Sharing (g : Graph) : Prop where
  apart : g.shared.flatten.Nodup
  alike : ∀ paths ∈ g.shared, ∀ p ∈ paths, ∀ q ∈ paths, g.get? p = g.get? q

/-- The paths of a group have the same module. -/
theorem Sharing.get_group (h : g.Sharing) {q : String} (member : q ∈ g.shared.group path) :
    g.get? q = g.get? path := by
  rcases g.shared.group_cases path with ⟨listed, inside⟩ | ⟨alone, -⟩
  · exact h.alike _ listed q member path inside
  · rw [alone, List.mem_singleton] at member
    rw [member]

/-! ### What is under a path afterwards -/

/-- After an addition its path has the new module, and the others have what they had. -/
theorem get_add (g : Graph) (m : Module) (p : String) :
    (g.add m).get? p = if p = m.path then some m else g.get? p := by
  change (g.modules.set m.path m).lookup p = _
  rw [set_eq_alter, lookup_alter]
  rfl

/-- After a removal its path has no module, and the others have what they had. -/
theorem get_remove (g : Graph) (path p : String) :
    (g.remove path).get? p = if p = path then none else g.get? p := by
  unfold remove
  cases found : g.get? path with
  | none =>
    by_cases same : p = path
    · rw [if_pos same, same, found]
    · rw [if_neg same]
  | some m =>
    change (without path g.modules).lookup p = _
    rw [lookup_without]
    rfl

/-- Changing the modules of different paths changes each of them once. -/
theorem foldl_modify {paths : List String} (distinct : paths.Nodup) (f : Module → Module)
    (ms : ModuleMap) :
    paths.foldl (fun ms p => ms.modify p f) ms =
      ms.map fun e => (e.1, if e.1 ∈ paths then f e.2 else e.2) := by
  induction paths generalizing ms with
  | nil => simp
  | cons p rest ih =>
    obtain ⟨fresh, distinctRest⟩ := List.nodup_cons.mp distinct
    rw [List.foldl_cons, ih distinctRest, ModuleMap.modify, List.map_map]
    refine List.map_congr_left fun e _ => ?_
    dsimp only [Function.comp]
    by_cases here : e.1 = p
    · simp [here, fresh]
    · simp [here]

/-- A change in place reaches the module under every path of the group. -/
theorem Sharing.modules_modify (h : g.Sharing) (path : String) (f : Module → Module) :
    (g.modify path f).modules =
      g.modules.map fun e => (e.1, if e.1 ∈ g.shared.group path then f e.2 else e.2) :=
  foldl_modify (SharedPaths.nodup_group h.apart path) f g.modules

/-- What is under a path after a change in place. -/
theorem Sharing.get_modify (h : g.Sharing) (path : String) (f : Module → Module) (p : String) :
    (g.modify path f).get? p =
      (g.get? p).map fun m => if p ∈ g.shared.group path then f m else m := by
  unfold get? ModuleMap.get?
  rw [h.modules_modify path f]
  exact lookup_map (fun p m => if p ∈ g.shared.group path then f m else m) g.modules p

/-! ### Groups afterwards -/

/-- Taking a path out of its group, and changing nothing but what is under that path. -/
theorem Sharing.separate (h : g.Sharing) {after : Graph}
    (taken : after.shared = g.shared.separate path)
    (others : ∀ p, p ≠ path → after.get? p = g.get? p) : after.Sharing := by
  refine ⟨taken ▸ SharedPaths.separate_apart h.apart path, ?_⟩
  intro paths listed p left q right
  rw [taken] at listed
  obtain ⟨before, group, rfl⟩ := SharedPaths.mem_separate listed
  obtain ⟨left, notP⟩ := List.mem_filter.mp left
  obtain ⟨right, notQ⟩ := List.mem_filter.mp right
  rw [others p (by simpa using notP), others q (by simpa using notQ)]
  exact h.alike before group p left q right

/-- Adding a module keeps groups apart and alike. -/
theorem Sharing.add (h : g.Sharing) (m : Module) : (g.add m).Sharing := by
  have taken : (g.add m).shared = g.shared.separate m.path := rfl
  refine h.separate taken fun p differ => ?_
  rw [get_add, if_neg differ]

/-- Taking a module away keeps groups apart and alike. -/
theorem Sharing.remove (h : g.Sharing) (path : String) : (g.remove path).Sharing := by
  cases found : g.get? path with
  | none =>
    have same : g.remove path = g := by rw [Graph.remove, found]
    rwa [same]
  | some m =>
    have taken : (g.remove path).shared = g.shared.separate path := by rw [Graph.remove, found]
    refine h.separate taken fun p differ => ?_
    rw [get_remove, if_neg differ]

/-- Changing a module in place keeps groups apart and alike. -/
theorem Sharing.modify (h : g.Sharing) (path : String) (f : Module → Module) :
    (g.modify path f).Sharing := by
  refine ⟨h.apart, fun paths listed p left q right => ?_⟩
  have together := SharedPaths.mem_group_iff h.apart listed left right path
  have same := h.alike paths listed p left q right
  rw [h.get_modify, h.get_modify, same]
  simp only [together]

/-- Adding a module once more keeps groups apart and alike. -/
theorem Sharing.addAgain (h : g.Sharing) (path : String) : (g.addAgain path).Sharing := by
  cases found : g.get? path with
  | none =>
    have same : g.addAgain path = g := by rw [Graph.addAgain, found]
    rwa [same]
  | some m =>
    have added : g.addAgain path = { g.add m with shared := g.shared.unite m.path path } := by
      rw [Graph.addAgain, found]
    have under : ∀ p, (g.addAgain path).get? p = if p = m.path then some m else g.get? p := by
      intro p
      rw [added]
      exact get_add g m p
    refine ⟨by rw [added]; exact SharedPaths.unite_apart h.apart m.path path, ?_⟩
    intro paths listed p left q right
    rw [added] at listed
    change paths ∈ g.shared.unite m.path path at listed
    unfold SharedPaths.unite at listed
    by_cases inside : m.path ∈ g.shared.group path
    · -- The module is already known by both paths, so nothing changes.
      rw [if_pos inside] at listed
      have already : g.get? m.path = some m := (h.get_group inside).trans found
      have unchanged : ∀ p, (g.addAgain path).get? p = g.get? p := by
        intro p
        rw [under]
        by_cases same : p = m.path
        · rw [if_pos same, same, already]
        · rw [if_neg same]
      rw [unchanged, unchanged]
      exact h.alike paths listed p left q right
    · rw [if_neg inside] at listed
      rcases List.mem_cons.mp listed with rfl | old
      · have all : ∀ p ∈ m.path :: g.shared.group path, (g.addAgain path).get? p = some m := by
          intro p member
          rw [under]
          rcases List.mem_cons.mp member with rfl | inGroup
          · rw [if_pos rfl]
          · have differ : p ≠ m.path := fun same => inside (same ▸ inGroup)
            rw [if_neg differ, h.get_group inGroup, found]
        rw [all p left, all q right]
      · obtain ⟨before, group, rfl⟩ := SharedPaths.mem_separate (List.mem_filter.mp old).1
        obtain ⟨left, notP⟩ := List.mem_filter.mp left
        obtain ⟨right, notQ⟩ := List.mem_filter.mp right
        rw [under, under, if_neg (by simpa using notP), if_neg (by simpa using notQ)]
        exact h.alike before group p left q right

end Graph

/-! ## Counting modules -/

namespace GraphStats

variable {s : GraphStats} {ms : List Module} {m : Module}

/-- Numbers that say how many of some modules there are for each language and each layer. -/
structure Tallies (s : GraphStats) (ms : List Module) : Prop where
  byLanguage : s.byLanguage.Tallies (ms.map Module.language)
  byLayer : s.byLayer.Tallies (ms.map Module.layer)

/-- The order of modules does not matter for the numbers. -/
theorem Tallies.perm (t : s.Tallies ms) {others : List Module} (same : ms.Perm others) :
    s.Tallies others :=
  ⟨t.byLanguage.perm (same.map _), t.byLayer.perm (same.map _)⟩

/-- A module that is counted is one more among those that the numbers tell of. -/
theorem Tallies.remember (t : s.Tallies ms) (m : Module) : (s.remember m).Tallies (m :: ms) :=
  ⟨t.byLanguage.increment m.language, t.byLayer.increment m.layer⟩

/-- A module that is counted no longer is one less among those that the numbers tell of. -/
theorem Tallies.forget (t : s.Tallies (m :: ms)) : (s.forget m).Tallies ms :=
  ⟨t.byLanguage.decrement, t.byLayer.decrement⟩

end GraphStats

namespace Graph

variable {g : Graph}

/-- A graph that knows how many modules it has, under different paths. -/
structure Counted (g : Graph) : Prop extends g.Sharing where
  distinct : (g.modules.map Prod.fst).Nodup
  total : g.stats.totalModules = g.modules.length

/-- A graph that knows how many modules it has for each language and each layer. -/
def Tallied (g : Graph) : Prop :=
  g.stats.Tallies g.modules.modules

/-- A module that is added is one more, or takes the place of another one. -/
theorem add_cases (distinct : (g.modules.map Prod.fst).Nodup) (m : Module) :
    ∃ rest, (g.add m).modules.Perm ((m.path, m) :: rest) ∧
      (g.modules = rest ∧ (g.add m).stats = g.stats.remember m ∨
        ∃ old, g.modules.Perm ((m.path, old) :: rest) ∧
          (g.add m).stats = (g.stats.forget old).remember m) := by
  have placed : (g.add m).modules.Perm ((m.path, m) :: without m.path g.modules) := by
    change (g.modules.set m.path m).Perm _
    rw [set_eq_alter]
    exact alter_perm _ distinct
  refine ⟨without m.path g.modules, placed, ?_⟩
  cases found : g.get? m.path with
  | none =>
    have fresh : m.path ∉ g.modules.map Prod.fst := by
      intro there
      obtain ⟨e, member, same⟩ := List.mem_map.mp there
      have listed : g.modules.lookup e.1 = some e.2 := lookup_of_mem distinct member
      rw [same] at listed
      exact absurd (found.symm.trans listed) (by simp)
    refine Or.inl ⟨(without_of_not_mem fresh).symm, ?_⟩
    rw [Graph.add, found]
  | some old =>
    refine Or.inr ⟨old, perm_of_lookup distinct found, ?_⟩
    rw [Graph.add, found]

/-- A module that is taken away is one less, unless there is none. -/
theorem remove_cases (distinct : (g.modules.map Prod.fst).Nodup) (path : String) :
    g.remove path = g ∨
      ∃ m, g.modules.Perm ((path, m) :: (g.remove path).modules) ∧
        (g.remove path).stats = g.stats.forget m := by
  unfold Graph.remove
  cases found : g.get? path with
  | none => exact Or.inl rfl
  | some m => exact Or.inr ⟨m, perm_of_lookup distinct found, rfl⟩

/-- Adding a module once more comes to adding it, or to nothing, but for the groups of paths. -/
theorem addAgain_cases (g : Graph) (path : String) :
    g.addAgain path = g ∨
      ∃ m, (g.addAgain path).modules = (g.add m).modules ∧
        (g.addAgain path).stats = (g.add m).stats := by
  unfold Graph.addAgain
  cases g.get? path with
  | none => exact Or.inl rfl
  | some m => exact Or.inr ⟨m, rfl, rfl⟩

/-! ### Every change keeps the counts -/

/-- Paths are different after an addition. -/
theorem distinct_add (distinct : (g.modules.map Prod.fst).Nodup) (m : Module) :
    ((g.add m).modules.map Prod.fst).Nodup := by
  change ((g.modules.set m.path m).map Prod.fst).Nodup
  rw [set_eq_alter]
  exact nodup_keys_alter _ _ distinct

/-- The total is right after an addition. -/
theorem total_add (h : g.Counted) (m : Module) :
    (g.add m).stats.totalModules = (g.add m).modules.length := by
  obtain ⟨rest, placed, ⟨same, stats⟩ | ⟨old, before, stats⟩⟩ := add_cases h.distinct m
  · have length := placed.length_eq
    rw [List.length_cons, ← same, ← h.total] at length
    rw [stats, length]
    rfl
  · have length := placed.length_eq
    have lengthBefore := before.length_eq
    have total := h.total
    rw [List.length_cons] at length lengthBefore
    -- The old module was counted, so the total that it is taken from is not zero.
    rw [stats, length]
    change g.stats.totalModules - 1 + 1 = rest.length + 1
    omega

/-- The numbers by language and layer are right after an addition. -/
theorem tallied_add (h : g.Counted) (t : g.Tallied) (m : Module) : (g.add m).Tallied := by
  obtain ⟨rest, placed, ⟨same, stats⟩ | ⟨old, before, stats⟩⟩ := add_cases h.distinct m
  · have more := GraphStats.Tallies.remember t m
    rw [same] at more
    rw [Tallied, stats]
    exact more.perm (placed.map Prod.snd).symm
  · have split : g.stats.Tallies (old :: rest.map Prod.snd) :=
      GraphStats.Tallies.perm t (before.map Prod.snd)
    rw [Tallied, stats]
    exact (split.forget.remember m).perm (placed.map Prod.snd).symm

/-- Adding a module keeps paths different and the total right. -/
theorem Counted.add (h : g.Counted) (m : Module) : (g.add m).Counted :=
  ⟨h.toSharing.add m, distinct_add h.distinct m, total_add h m⟩

/-- Adding a module once more keeps paths different and the total right. -/
theorem Counted.addAgain (h : g.Counted) (path : String) : (g.addAgain path).Counted := by
  have sharing := h.toSharing.addAgain path
  rcases g.addAgain_cases path with same | ⟨m, modules, stats⟩
  · rwa [same]
  · refine ⟨sharing, ?_, ?_⟩
    · rw [modules]
      exact distinct_add h.distinct m
    · rw [modules, stats]
      exact total_add h m

/-- Taking a module away keeps paths different and the total right. -/
theorem Counted.remove (h : g.Counted) (path : String) : (g.remove path).Counted := by
  have sharing := h.toSharing.remove path
  rcases remove_cases h.distinct path with same | ⟨m, before, stats⟩
  · rwa [same]
  · refine ⟨sharing, ?_, ?_⟩
    · have keys := (before.map Prod.fst).nodup_iff.mp h.distinct
      exact (List.nodup_cons.mp keys).2
    · have length := before.length_eq
      have total := h.total
      rw [List.length_cons] at length
      rw [stats]
      change g.stats.totalModules - 1 = (g.remove path).modules.length
      omega

/-- Changing a module in place keeps paths different and the total right. -/
theorem Counted.modify (h : g.Counted) (path : String) (f : Module → Module) :
    (g.modify path f).Counted := by
  have modules := h.toSharing.modules_modify path f
  refine ⟨h.toSharing.modify path f, ?_, ?_⟩
  · rw [modules, List.map_map]
    exact h.distinct
  · rw [modules, List.length_map]
    exact h.total

/-- The numbers stay right when a module keeps its language and its layer. -/
theorem Tallied.modify (t : g.Tallied) (h : g.Counted) (path : String) (f : Module → Module)
    (keeps : ∀ m, g.get? path = some m → (f m).language = m.language ∧ (f m).layer = m.layer) :
    (g.modify path f).Tallied := by
  -- What is asked of the module of the path holds of all entries of its group: they have the same.
  have kept : ∀ e ∈ g.modules, e.1 ∈ g.shared.group path →
      (f e.2).language = e.2.language ∧ (f e.2).layer = e.2.layer := by
    intro e member inGroup
    have listed : g.get? e.1 = some e.2 := lookup_of_mem h.distinct member
    exact keeps e.2 ((h.get_group inGroup).symm.trans listed)
  have same : ∀ feature : Module → String,
      (∀ e ∈ g.modules, e.1 ∈ g.shared.group path → feature (f e.2) = feature e.2) →
      (g.modify path f).modules.modules.map feature = g.modules.modules.map feature := by
    intro feature unchanged
    rw [h.modules_modify path f, ModuleMap.modules, ModuleMap.modules, List.map_map, List.map_map,
      List.map_map]
    refine List.map_congr_left fun e member => ?_
    dsimp only [Function.comp]
    split
    next inGroup => exact unchanged e member inGroup
    next outside => rfl
  refine ⟨?_, ?_⟩
  · rw [same Module.language fun e member inGroup => (kept e member inGroup).1]
    exact t.byLanguage
  · rw [same Module.layer fun e member inGroup => (kept e member inGroup).2]
    exact t.byLayer

/-! ## Sequences of changes -/

/-- A way to change the modules of a graph. -/
inductive Change where
  /-- Add a module that may take the place of another one. -/
  | add (m : Module)
  /-- Add the module of a path once more. -/
  | addAgain (path : String)
  /-- Take the module of a path away. -/
  | remove (path : String)
  /-- Change the module of a path in place. -/
  | modify (path : String) (f : Module → Module)

namespace Change

/-- Make a change. -/
def apply (g : Graph) : Change → Graph
  | .add m => g.add m
  | .addAgain path => g.addAgain path
  | .remove path => g.remove path
  | .modify path f => g.modify path f

/-- Whether a change gives no stored module another language or layer in place. -/
def Keeps (g : Graph) : Change → Prop
  | .modify path f =>
    ∀ m, g.get? path = some m → (f m).language = m.language ∧ (f m).layer = m.layer
  | _ => True

end Change

/-- The graph after changes. -/
def changed (g : Graph) (changes : List Change) : Graph :=
  changes.foldl Change.apply g

/-- Whether no change along the way gives a stored module another language or layer in place. -/
def KeepsAlong (g : Graph) : List Change → Prop
  | [] => True
  | change :: rest => change.Keeps g ∧ KeepsAlong (change.apply g) rest

/-- What holds along some changes holds along the first of them. -/
theorem KeepsAlong.take {changes : List Change} (h : g.KeepsAlong changes) (n : Nat) :
    g.KeepsAlong (changes.take n) := by
  induction changes generalizing g n with
  | nil => rwa [List.take_nil]
  | cons change rest ih =>
    cases n with
    | zero => exact trivial
    | succ n => exact ⟨h.1, ih h.2 n⟩

/-- Any change keeps paths different and the total right. -/
theorem Counted.apply (h : g.Counted) (change : Change) : (change.apply g).Counted := by
  cases change with
  | add m => exact h.add m
  | addAgain path => exact h.addAgain path
  | remove path => exact h.remove path
  | modify path f => exact h.modify path f

/-- A change that gives no stored module another language or layer keeps the numbers right. -/
theorem Tallied.apply (t : g.Tallied) (h : g.Counted) {change : Change} (keeps : change.Keeps g) :
    (change.apply g).Tallied := by
  cases change with
  | add m => exact tallied_add h t m
  | addAgain path =>
    rcases g.addAgain_cases path with same | ⟨m, modules, stats⟩
    · change (g.addAgain path).Tallied
      rwa [same]
    · change (g.addAgain path).Tallied
      rw [Tallied, modules, stats]
      exact tallied_add h t m
  | remove path =>
    change (g.remove path).Tallied
    rcases remove_cases h.distinct path with same | ⟨m, before, stats⟩
    · rwa [same]
    · have split : g.stats.Tallies (m :: (g.remove path).modules.modules) :=
        GraphStats.Tallies.perm t (before.map Prod.snd)
      rw [Tallied, stats]
      exact split.forget
  | modify path f => exact t.modify h path f keeps

/-- Any changes keep paths different and the total right. -/
theorem Counted.changed (h : g.Counted) (changes : List Change) : (g.changed changes).Counted := by
  induction changes generalizing g with
  | nil => exact h
  | cons change rest ih => exact ih (h.apply change)

/-- Changes that give no stored module another language or layer keep the numbers right. -/
theorem Tallied.changed (t : g.Tallied) (h : g.Counted) {changes : List Change}
    (keeps : g.KeepsAlong changes) : (g.changed changes).Tallied := by
  induction changes generalizing g with
  | nil => exact t
  | cons change rest ih => exact ih (t.apply h keeps.1) (h.apply change) keeps.2

/-- The total of an empty graph is right. -/
theorem counted_empty (name : String) : ({ root := name } : Graph).Counted := by
  refine ⟨⟨List.nodup_nil, ?_⟩, List.nodup_nil, rfl⟩
  intro paths impossible
  cases impossible

/-- The numbers of an empty graph are right. -/
theorem tallied_empty (name : String) : ({ root := name } : Graph).Tallied := by
  have nothing : Histogram.Tallies [] [] :=
    ⟨List.nodup_nil, fun key => by rw [Histogram.tally?, List.count_nil, if_neg (by simp)]; rfl⟩
  exact ⟨nothing, nothing⟩

/-- The graph that an empty one becomes by changes. -/
def ofChanges (name : String) (changes : List Change) : Graph :=
  ({ root := name } : Graph).changed changes

/-- The counts of a graph that started empty are right after each step of any sequence of changes,
in which modules are added, also in the place of another one or of themselves, taken away, whether
they are there or not, and changed in place. The paths stay different, and the total is their
number. If no stored module is given another language or layer in place, then there is an entry for
exactly the languages and the layers that occur, other than the empty one, and it says how many
modules have them. So without modules there are no entries. -/
theorem stats_ofChanges (name : String) (changes : List Change) (n : Nat) :
    ((ofChanges name (changes.take n)).modules.map Prod.fst).Nodup ∧
    (ofChanges name (changes.take n)).stats.totalModules =
      (ofChanges name (changes.take n)).modules.length ∧
    (KeepsAlong { root := name } changes →
      (ofChanges name (changes.take n)).stats.Tallies
          (ofChanges name (changes.take n)).modules.modules ∧
        ((ofChanges name (changes.take n)).modules = [] →
          (ofChanges name (changes.take n)).stats.byLanguage = [] ∧
            (ofChanges name (changes.take n)).stats.byLayer = [])) := by
  have counted := (counted_empty name).changed (changes.take n)
  refine ⟨counted.distinct, counted.total, fun keeps => ?_⟩
  have tallied : (ofChanges name (changes.take n)).Tallied :=
    (tallied_empty name).changed (counted_empty name) (keeps.take n)
  refine ⟨tallied, fun nothing => ?_⟩
  have none_ : (ofChanges name (changes.take n)).stats.Tallies [] := by
    have here : (ofChanges name (changes.take n)).stats.Tallies
        (ofChanges name (changes.take n)).modules.modules := tallied
    rwa [nothing] at here
  exact ⟨none_.byLanguage.eq_nil, none_.byLayer.eq_nil⟩

/-- Changes of two modules. The first one is known by a second path for a while, under which another
one in another language then takes its place. -/
def changesOfTwo : List Change :=
  [.add { path := "a.go", uri := "urn:a", language := "go", layer := "core" },
    .add { path := "b.go", uri := "urn:b", language := "go" },
    .modify "a.go" (fun m => { m with path := "c.go" }), .addAgain "a.go", .remove "a.go",
    .remove "missing.go", .add { path := "c.go", uri := "urn:c", language := "rust" },
    .remove "c.go", .remove "b.go"]

/-- After four of them there are three modules in one language, and at the end there is nothing. -/
theorem stats_ofChanges_two :
    KeepsAlong { root := "/repo" } changesOfTwo ∧
      (ofChanges "/repo" (changesOfTwo.take 4)).stats.totalModules = 3 ∧
      (ofChanges "/repo" (changesOfTwo.take 4)).stats.byLanguage.Tallies ["go", "go", "go"] ∧
      (ofChanges "/repo" (changesOfTwo.take 9)).stats.byLanguage = [] ∧
      (ofChanges "/repo" (changesOfTwo.take 9)).stats.byLayer = [] := by
  have keeps : KeepsAlong { root := "/repo" } changesOfTwo := by
    refine ⟨trivial, trivial, fun m _ => ⟨rfl, rfl⟩, ?_⟩
    exact ⟨trivial, trivial, trivial, trivial, trivial, trivial, trivial⟩
  obtain ⟨-, total, tallies⟩ := stats_ofChanges "/repo" changesOfTwo 4
  obtain ⟨-, -, atEnd⟩ := stats_ofChanges "/repo" changesOfTwo 9
  have three : (ofChanges "/repo" (changesOfTwo.take 4)).modules.length = 3 := by cbv
  have gone : (ofChanges "/repo" (changesOfTwo.take 9)).modules = [] := by cbv
  have languages : (ofChanges "/repo" (changesOfTwo.take 4)).modules.modules.map Module.language =
      ["go", "go", "go"] := by cbv
  refine ⟨keeps, total.trans three, ?_, (atEnd keeps).2 gone⟩
  rw [← languages]
  exact (tallies keeps).1.byLanguage

end Graph

end DocGraph
