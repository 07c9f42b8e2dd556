import DocGraph.Proofs.Graph.Discovery
import Mathlib

/-!
# Two answers about what a module reaches

`transitiveDependencies` lists what a module reaches, and `reaches` looks for one target. They go
through the graph in different orders, and both go into each URI once. `Closed` is what both leave
behind: whatever a module depends on whose URI was seen has been seen too. So if modules with the
same URI have the same dependencies, it makes no difference which of them was gone into, and
`reachability_agrees` says that the two answer alike.

If two modules share a URI and depend on different modules, only one of them is gone into, and the
two walks take different ones. `reachability_of_namesakes` is such a graph.
-/

set_option autoImplicit false

namespace DocGraph

namespace Graph

/-- Modules with the same URI have the same dependencies. -/
def UrisAgree (g : Graph) : Prop :=
  ∀ m ∈ g.modules.modules, ∀ n ∈ g.modules.modules, m.uri = n.uri → m.dependencies = n.dependencies

/-- Paths tell modules apart. -/
def PathsDiffer (g : Graph) : Prop :=
  ∀ m ∈ g.modules.modules, ∀ n ∈ g.modules.modules, m.path = n.path → m = n

/-- The module of a path leads to another one by one or more dependencies. -/
def LeadsTo (g : Graph) (path : String) (n : Module) : Prop :=
  ∃ start, g.get? path = some start ∧ Relation.TransGen g.DependsOn start n

variable {g : Graph}

/-- What a path leads to is a module of the graph. -/
theorem LeadsTo.mem {path : String} {n : Module} (h : g.LeadsTo path n) :
    n ∈ g.modules.modules := by
  obtain ⟨start, -, reached⟩ := h
  obtain ⟨_, -, last⟩ := Relation.TransGen.tail'_iff.mp reached
  exact last.mem

/-- Modules with the same URI depend on the same modules, if their dependencies agree. -/
theorem UrisAgree.dependsOn_congr (agree : g.UrisAgree) {m m' n : Module}
    (member : m ∈ g.modules.modules) (member' : m' ∈ g.modules.modules) (same : m.uri = m'.uri)
    (h : g.DependsOn m n) : g.DependsOn m' n := by
  obtain ⟨reference, own, found⟩ := h
  rw [agree m member m' member' same] at own
  exact ⟨reference, own, found⟩

/-! ## What a walk has seen -/

/-- Whatever a module depends on whose URI was seen was seen as well and is good, or is still to be
looked at. -/
def ClosedBut (g : Graph) (seen : List String) (good pending : Module → Prop) : Prop :=
  ∀ m ∈ g.modules.modules, m.uri ∈ seen → ∀ n, g.DependsOn m n → n.uri ∈ seen ∧ good n ∨ pending n

/-- Nothing is still to be looked at. -/
def Closed (g : Graph) (seen : List String) (good : Module → Prop) : Prop :=
  ∀ m ∈ g.modules.modules, m.uri ∈ seen → ∀ n, g.DependsOn m n → n.uri ∈ seen ∧ good n

variable {seen : List String} {good good' pending pending' : Module → Prop}

/-- Where nothing is still to be looked at, all that is reached from a module that was seen was seen
and is good. -/
theorem Closed.reached (h : g.Closed seen good) {start n : Module}
    (member : start ∈ g.modules.modules) (first : start.uri ∈ seen)
    (reached : Relation.TransGen g.DependsOn start n) : n.uri ∈ seen ∧ good n := by
  induction reached with
  | single depends => exact h start member first _ depends
  | tail before depends ih =>
    obtain ⟨_, -, last⟩ := Relation.TransGen.tail'_iff.mp before
    exact h _ last.mem ih.1 _ depends

/-- What is good and what is pending may be replaced, if what was pending is seen and good or still
pending. -/
theorem ClosedBut.imp (h : g.ClosedBut seen good pending)
    (kept : ∀ n, n.uri ∈ seen → good n → good' n)
    (done : ∀ n, pending n → n.uri ∈ seen ∧ good' n ∨ pending' n) :
    g.ClosedBut seen good' pending' := by
  intro m member old n depends
  rcases h m member old n depends with ⟨here, was⟩ | waits
  · exact Or.inl ⟨here, kept n here was⟩
  · exact done n waits

/-- A module is gone into: its URI counts as seen, and what it depends on is to be looked at. -/
theorem ClosedBut.enter (agree : g.UrisAgree) (h : g.ClosedBut seen good pending) {entered : Module}
    (known : entered ∈ g.modules.modules) (kept : ∀ n, n.uri ∈ seen → good n → good' n)
    (own : ∀ n, g.DependsOn entered n → pending' n)
    (done : ∀ n, pending n → n.uri ∈ entered.uri :: seen ∧ good' n ∨ pending' n) :
    g.ClosedBut (entered.uri :: seen) good' pending' := by
  intro m member old n depends
  rcases List.mem_cons.mp old with same | old
  · exact Or.inr (own n (agree.dependsOn_congr member known same depends))
  · rcases h m member old n depends with ⟨here, was⟩ | waits
    · exact Or.inl ⟨List.mem_cons_of_mem _ here, kept n here was⟩
    · exact done n waits

/-! ## The listing -/

/-- One of several references resolves to a module. -/
def Referred (g : Graph) (references : List String) (n : Module) : Prop :=
  ∃ reference ∈ references, g.find? reference = some n

/-- The first reference resolves to the module, or one of the others does. -/
theorem referred_cons {reference : String} {rest : List String} {n : Module} :
    g.Referred (reference :: rest) n ↔ g.find? reference = some n ∨ g.Referred rest n := by
  simp [Referred]

/-- The listing leaves nothing behind that it has not seen and listed. -/
theorem closed_discoverFrom (agree : g.UrisAgree) (seen found pending : List String)
    (h : g.ClosedBut seen (fun n => n.path ∈ found) (g.Referred pending)) :
    ∃ after, seen ⊆ after ∧
      g.Closed after fun n => n.path ∈ discoverFrom g.modules seen found pending := by
  have listed : ∀ (path : String) (found : List String),
      path ∈ (if path ∈ found then found else path :: found) ∧
        found ⊆ if path ∈ found then found else path :: found := by
    intro path found
    split <;> simp_all
  fun_induction discoverFrom g.modules seen found pending with
  | case1 seen found =>
    refine ⟨seen, List.Subset.refl _, fun m member old n depends => ?_⟩
    rcases h m member old n depends with done | ⟨_, impossible, -⟩
    · simpa using done
    · cases impossible
  | case2 seen found reference pending missing ih =>
    refine ih (h.imp (fun n _ was => was) fun n waits => ?_)
    rcases referred_cons.mp waits with first | later
    · rw [find_of_resolve_none missing] at first
      cases first
    · exact Or.inr later
  | case3 seen found reference pending entry resolved now old ih =>
    obtain ⟨here, kept⟩ := listed entry.2.path found
    refine ih (h.imp (fun n _ was => kept was) fun n waits => ?_)
    rcases referred_cons.mp waits with first | later
    · obtain rfl := Option.some.inj ((find_of_resolve resolved).symm.trans first)
      exact Or.inl ⟨old, here⟩
    · exact Or.inr later
  | case4 seen found reference pending entry resolved now new ih =>
    obtain ⟨here, kept⟩ := listed entry.2.path found
    have own : ∀ n, g.DependsOn entry.2 n →
        g.Referred (entry.2.dependencies ++ pending) n := by
      rintro n ⟨reference, own, leads⟩
      exact ⟨reference, List.mem_append_left _ own, leads⟩
    have entered := h.enter agree (mem_of_resolve resolved) (fun n _ was => kept was) own (by
      intro n waits
      rcases referred_cons.mp waits with first | ⟨later, pends, leads⟩
      · obtain rfl := Option.some.inj ((find_of_resolve resolved).symm.trans first)
        exact Or.inl ⟨List.mem_cons_self, here⟩
      · exact Or.inr ⟨later, List.mem_append_right _ pends, leads⟩)
    obtain ⟨after, more, closed⟩ := ih entered
    exact ⟨after, fun uri old => more (List.mem_cons_of_mem _ old), closed⟩

/-- What is listed is led to, whatever the URIs are. -/
theorem leadsTo_of_listed {path p : String} (h : p ∈ g.transitiveDependencies path) :
    ∃ n, g.LeadsTo path n ∧ n.path = p := by
  unfold transitiveDependencies at h
  split at h
  next start known =>
    have direct : ∀ reference ∈ start.dependencies, ∀ n, g.find? reference = some n →
        Relation.TransGen g.DependsOn start n :=
      fun reference own n found => .single ⟨reference, own, found⟩
    obtain ⟨n, reached, here⟩ := reached_of_mem_discoverFrom _ _ _ (by simp) direct p h
    exact ⟨n, ⟨start, known, reached⟩, here⟩
  · cases h

/-- A path is listed exactly if a module with that path is led to. -/
theorem listed_iff (agree : g.UrisAgree) (path p : String) :
    p ∈ g.transitiveDependencies path ↔ ∃ n, g.LeadsTo path n ∧ n.path = p := by
  refine ⟨leadsTo_of_listed, ?_⟩
  rintro ⟨n, ⟨start, known, reached⟩, rfl⟩
  have member : start ∈ g.modules.modules := List.mem_map_of_mem (mem_of_lookup known)
  have begun : g.ClosedBut [start.uri] (fun n => n.path ∈ ([] : List String))
      (g.Referred start.dependencies) := by
    intro m inGraph first n depends
    exact Or.inr (agree.dependsOn_congr inGraph member (List.mem_singleton.mp first) depends)
  obtain ⟨after, more, closed⟩ := closed_discoverFrom agree _ _ _ begun
  rw [transitiveDependencies, known]
  exact (closed.reached member (more (List.mem_singleton_self _)) reached).2

/-! ## The search -/

/-- A module is known by one of several paths. -/
def Stacked (g : Graph) (paths : List String) (n : Module) : Prop :=
  ∃ path ∈ paths, (path, n) ∈ g.modules

/-- The module is known by the first path, or by one of the others. -/
theorem stacked_cons {path : String} {rest : List String} {n : Module} :
    g.Stacked (path :: rest) n ↔ (path, n) ∈ g.modules ∨ g.Stacked rest n := by
  simp [Stacked]

/-- With different paths, the entry that is found for a path is the one with that path. -/
theorem find_key_eq_some_iff (distinct : (g.modules.map Prod.fst).Nodup) {path : String}
    {entry : String × Module} : (g.modules.find? fun e => e.1 = path) = some entry ↔
      entry ∈ g.modules ∧ entry.1 = path := by
  constructor
  · intro found
    exact ⟨List.mem_of_find?_eq_some found, by simpa using List.find?_some found⟩
  · rintro ⟨member, rfl⟩
    cases found : g.modules.find? fun e => e.1 = entry.1 with
    | none => simpa using List.find?_eq_none.mp found entry member
    | some other =>
      have same : other.1 = entry.1 := by simpa using List.find?_some found
      rw [List.inj_on_of_nodup_map distinct (List.mem_of_find?_eq_some found) member same]

/-- With different paths, a module is found under its path. -/
theorem find_key_eq_some (distinct : (g.modules.map Prod.fst).Nodup) {path : String} {n : Module}
    (member : (path, n) ∈ g.modules) : (g.modules.find? fun e => e.1 = path) = some (path, n) :=
  (find_key_eq_some_iff distinct).mpr ⟨member, rfl⟩

/-- With different paths, there is one module under a path. -/
theorem eq_of_find_key (distinct : (g.modules.map Prod.fst).Nodup) {path : String}
    {entry : String × Module} (found : (g.modules.find? fun e => e.1 = path) = some entry)
    {n : Module} (member : (path, n) ∈ g.modules) : n = entry.2 := by
  rw [find_key_eq_some distinct member] at found
  rw [← Option.some.inj found]

variable {target : String}

/-- What the dependencies of a module resolve to are modules that it depends on. -/
theorem dependsOn_of_mem_targets {m : Module} {entry : String × Module}
    (h : entry ∈ m.dependencies.filterMap (resolve? g.modules)) :
    entry ∈ g.modules ∧ g.DependsOn m entry.2 := by
  obtain ⟨reference, own, resolved⟩ := List.mem_filterMap.mp h
  exact ⟨resolve?_mem resolved, reference, own, find_of_resolve resolved⟩

/-- What a module depends on is among what its dependencies resolve to. -/
theorem exists_target_of_dependsOn {m n : Module} (h : g.DependsOn m n) :
    ∃ entry ∈ m.dependencies.filterMap (resolve? g.modules), entry.2 = n := by
  obtain ⟨reference, own, found⟩ := h
  obtain ⟨entry, resolved, rfl⟩ := Option.map_eq_some_iff.mp found
  exact ⟨entry, List.mem_filterMap.mpr ⟨reference, own, resolved⟩, rfl⟩

/-- A target that is found goes by its path or its URI, and the start leads to it. -/
theorem reached_of_searchFrom (distinct : (g.modules.map Prod.fst).Nodup) {start : Module}
    (seen stack : List String)
    (within : ∀ n, g.Stacked stack n → Relation.ReflTransGen g.DependsOn start n)
    (h : searchFrom g.modules target seen stack = true) :
    ∃ n, Relation.TransGen g.DependsOn start n ∧ goesBy n target = true := by
  fun_induction searchFrom g.modules target seen stack with
  | case1 seen => cases h
  | case2 seen path stack missing ih =>
    exact ih (fun n waits => within n (stacked_cons.mpr (Or.inr waits))) h
  | case3 seen path stack entry found old ih =>
    exact ih (fun n waits => within n (stacked_cons.mpr (Or.inr waits))) h
  | case4 seen path stack entry found new targets hit =>
    obtain ⟨e, among, goes⟩ := List.any_eq_true.mp hit
    obtain ⟨member, rfl⟩ := (find_key_eq_some_iff distinct).mp found
    have here := within entry.2 (stacked_cons.mpr (Or.inl member))
    exact ⟨e.2, .tail' here (dependsOn_of_mem_targets among).2, goes⟩
  | case5 seen path stack entry found new targets miss ih =>
    obtain ⟨member, rfl⟩ := (find_key_eq_some_iff distinct).mp found
    have here := within entry.2 (stacked_cons.mpr (Or.inl member))
    refine ih (fun n waits => ?_) h
    obtain ⟨p, listed, known⟩ := waits
    rcases List.mem_append.mp listed with own | later
    · obtain ⟨e, among, rfl⟩ := List.mem_map.mp (List.mem_reverse.mp own)
      obtain ⟨inGraph, depends⟩ := dependsOn_of_mem_targets among
      -- Keys differ, so what the stack names is the module that was found.
      have same : e = (e.1, n) := List.inj_on_of_nodup_map distinct inGraph known rfl
      rw [same] at depends
      exact here.tail depends
    · exact within n (stacked_cons.mpr (Or.inr ⟨p, later, known⟩))

/-- A search without success leaves nothing behind that it has not seen and tested. -/
theorem closed_searchFrom (agree : g.UrisAgree) (distinct : (g.modules.map Prod.fst).Nodup)
    (seen stack : List String)
    (closed : g.ClosedBut seen (fun n => goesBy n target = false)
      fun n => goesBy n target = false ∧ g.Stacked stack n)
    (h : searchFrom g.modules target seen stack = false) :
    ∃ after, seen ⊆ after ∧ (∀ n, g.Stacked stack n → n.uri ∈ after) ∧
      g.Closed after fun n => goesBy n target = false := by
  fun_induction searchFrom g.modules target seen stack with
  | case1 seen =>
    refine ⟨seen, List.Subset.refl _, ?_, ?_⟩
    · rintro n ⟨_, impossible, -⟩
      cases impossible
    intro m member old n depends
    rcases closed m member old n depends with done | ⟨-, _, impossible, -⟩
    · exact done
    · cases impossible
  | case2 seen path stack missing ih =>
    have nobody : ∀ n, (path, n) ∉ g.modules := by
      intro n known
      rw [find_key_eq_some distinct known] at missing
      cases missing
    obtain ⟨after, more, stacked, final⟩ := ih (closed.imp (fun n _ was => was) (by
      rintro n ⟨misses, waits⟩
      exact Or.inr ⟨misses, (stacked_cons.mp waits).resolve_left (nobody n)⟩)) h
    exact ⟨after, more,
      fun n waits => stacked n ((stacked_cons.mp waits).resolve_left (nobody n)), final⟩
  | case3 seen path stack entry found old ih =>
    obtain ⟨after, more, stacked, final⟩ := ih (closed.imp (fun n _ was => was) (by
      rintro n ⟨misses, waits⟩
      rcases stacked_cons.mp waits with first | later
      · exact Or.inl ⟨eq_of_find_key distinct found first ▸ old, misses⟩
      · exact Or.inr ⟨misses, later⟩)) h
    refine ⟨after, more, fun n waits => ?_, final⟩
    rcases stacked_cons.mp waits with first | later
    · exact eq_of_find_key distinct found first ▸ more old
    · exact stacked n later
  | case4 seen path stack entry found new targets hit => cases h
  | case5 seen path stack entry found new targets miss ih =>
    have known : entry.2 ∈ g.modules.modules :=
      List.mem_map_of_mem (List.mem_of_find?_eq_some found)
    have own : ∀ n, g.DependsOn entry.2 n → goesBy n target = false ∧
        g.Stacked ((targets.map Prod.fst).reverse ++ stack) n := by
      intro n depends
      obtain ⟨e, among, rfl⟩ := exists_target_of_dependsOn depends
      have missed : goesBy e.2 target = false := by
        simpa using List.any_eq_false.mp (eq_false_of_ne_true miss) e among
      refine ⟨missed, e.1, List.mem_append_left _ ?_, (dependsOn_of_mem_targets among).1⟩
      exact List.mem_reverse.mpr (List.mem_map_of_mem among)
    have entered := closed.enter agree known (fun n _ was => was) own (by
      rintro n ⟨misses, waits⟩
      rcases stacked_cons.mp waits with first | ⟨p, later, inGraph⟩
      · exact Or.inl ⟨eq_of_find_key distinct found first ▸ List.mem_cons_self, misses⟩
      · exact Or.inr ⟨misses, p, List.mem_append_right _ later, inGraph⟩)
    obtain ⟨after, more, stacked, final⟩ := ih entered h
    refine ⟨after, fun uri old => more (List.mem_cons_of_mem _ old), fun n waits => ?_, final⟩
    rcases stacked_cons.mp waits with first | ⟨p, later, inGraph⟩
    · exact eq_of_find_key distinct found first ▸ more List.mem_cons_self
    · exact stacked n ⟨p, List.mem_append_right _ later, inGraph⟩

/-- What is found is led to, whatever the URIs are. -/
theorem leadsTo_of_reaches (distinct : (g.modules.map Prod.fst).Nodup) {path : String}
    (h : g.reaches path target = true) : ∃ n, g.LeadsTo path n ∧ goesBy n target = true := by
  unfold reaches at h
  split at h
  next start known =>
    have within : ∀ n, g.Stacked [path] n → Relation.ReflTransGen g.DependsOn start n := by
      intro n waits
      rcases stacked_cons.mp waits with member | ⟨_, impossible, -⟩
      · have same := lookup_of_mem distinct member
        obtain rfl := Option.some.inj (same.symm.trans known)
        exact .refl
      · cases impossible
    obtain ⟨n, reached, goes⟩ := reached_of_searchFrom distinct _ _ within h
    exact ⟨n, ⟨start, known, reached⟩, goes⟩
  · cases h

/-- A target is found exactly if a module that goes by it is led to. -/
theorem reaches_iff (agree : g.UrisAgree) (distinct : (g.modules.map Prod.fst).Nodup)
    (path target : String) :
    g.reaches path target = true ↔ ∃ n, g.LeadsTo path n ∧ goesBy n target = true := by
  refine ⟨leadsTo_of_reaches distinct, ?_⟩
  rintro ⟨n, ⟨start, known, reached⟩, goes⟩
  have member : (path, start) ∈ g.modules := mem_of_lookup known
  have search : g.reaches path target = searchFrom g.modules target [] [path] := by
    rw [reaches, known]
  rw [search]
  by_contra failed
  obtain ⟨after, -, stacked, closed⟩ := closed_searchFrom agree distinct [] [path]
    (fun m _ impossible => by cases impossible) (eq_false_of_ne_true failed)
  have begun := stacked start (stacked_cons.mpr (Or.inl member))
  have missed := (closed.reached (List.mem_map_of_mem member) begun reached).2
  rw [goes] at missed
  cases missed

/-! ## Both together -/

/-- What the search finds and what the listing names is led to. If modules with the same URI have
the same dependencies, the search finds whatever is led to and goes by the target, and the listing
names whatever is led to. So if paths tell modules apart, the search finds a target exactly if the
listing names a module that goes by it. -/
theorem reachability_agrees (g : Graph) (path target : String)
    (distinct : (g.modules.map Prod.fst).Nodup) :
    (g.reaches path target = true → ∃ n, g.LeadsTo path n ∧ goesBy n target = true) ∧
    (∀ p ∈ g.transitiveDependencies path, ∃ n, g.LeadsTo path n ∧ n.path = p) ∧
    (g.UrisAgree →
      (g.reaches path target = true ↔ ∃ n, g.LeadsTo path n ∧ goesBy n target = true) ∧
      (∀ p, p ∈ g.transitiveDependencies path ↔ ∃ n, g.LeadsTo path n ∧ n.path = p) ∧
      (g.PathsDiffer →
        (g.reaches path target = true ↔ ∃ m ∈ g.modules.modules,
          goesBy m target = true ∧ m.path ∈ g.transitiveDependencies path))) := by
  refine ⟨leadsTo_of_reaches distinct, fun p => leadsTo_of_listed, fun agree => ?_⟩
  have found := reaches_iff agree distinct path target
  have listed := listed_iff agree path
  refine ⟨found, listed, fun differ => ?_⟩
  rw [found]
  constructor
  · rintro ⟨n, leads, goes⟩
    exact ⟨n, leads.mem, goes, (listed n.path).mpr ⟨n, leads, rfl⟩⟩
  · rintro ⟨m, member, goes, inList⟩
    obtain ⟨n, leads, here⟩ := (listed m.path).mp inList
    -- The listing has the path only, and no other module has it.
    obtain rfl := differ n leads.mem m member here
    exact ⟨n, leads, goes⟩

/-- A module that refers to two others. -/
def forked : Module :=
  { path := "a.py", uri := "#a", dependencies := ["b.py", "c.py"] }

/-- A module with a URI that it need not have for itself. -/
def sharing (path : String) (dependencies : List String) : Module :=
  { path, uri := "#shared", dependencies }

/-- A module without dependencies. -/
def leaf (path uri : String) : Module :=
  { path, uri }

/-- A module with two others that share a URI and depend on what is given. -/
def forkedGraph (first second : List String) : Graph :=
  { root := "/src"
    modules := [("a.py", forked), ("b.py", sharing "b.py" first), ("c.py", sharing "c.py" second),
      ("x.py", leaf "x.py" "#x"), ("y.py", leaf "y.py" "#y")] }

/-- The two modules that share a URI depend on the same, so both answers agree though only one of
the two was gone into. -/
theorem reachability_agrees_on_twins :
    ((forkedGraph ["x.py"] ["x.py"]).modules.map Prod.fst).Nodup ∧
      (forkedGraph ["x.py"] ["x.py"]).UrisAgree ∧ (forkedGraph ["x.py"] ["x.py"]).PathsDiffer ∧
      (forkedGraph ["x.py"] ["x.py"]).reaches "a.py" "#x" = true ∧
      "x.py" ∈ (forkedGraph ["x.py"] ["x.py"]).transitiveDependencies "a.py" := by
  have distinct : ((forkedGraph ["x.py"] ["x.py"]).modules.map Prod.fst).Nodup := by decide
  have agree : (forkedGraph ["x.py"] ["x.py"]).UrisAgree := by
    unfold UrisAgree
    decide
  have differ : (forkedGraph ["x.py"] ["x.py"]).PathsDiffer := by
    unfold PathsDiffer
    decide
  have found : (forkedGraph ["x.py"] ["x.py"]).reaches "a.py" "#x" = true := by cbv
  obtain ⟨-, -, both⟩ := reachability_agrees (forkedGraph ["x.py"] ["x.py"]) "a.py" "#x" distinct
  obtain ⟨-, -, same⟩ := both agree
  obtain ⟨m, member, goes, listed⟩ := (same differ).mp found
  have only : ∀ m ∈ (forkedGraph ["x.py"] ["x.py"]).modules.modules,
      goesBy m "#x" = true → m.path = "x.py" := by decide
  exact ⟨distinct, agree, differ, found, only m member goes ▸ listed⟩

/-- The two modules that share a URI depend on different modules. The search goes into one of them
and the listing into the other. So the search finds a module that is not listed, and it misses a
module that is. -/
theorem reachability_of_namesakes :
    (forkedGraph ["x.py"] ["y.py"]).transitiveDependencies "a.py" = ["b.py", "x.py", "c.py"] ∧
      (forkedGraph ["x.py"] ["y.py"]).reaches "a.py" "x.py" = false ∧
      (forkedGraph ["x.py"] ["y.py"]).reaches "a.py" "y.py" = true ∧
      ¬∀ target, (forkedGraph ["x.py"] ["y.py"]).reaches "a.py" target = true ↔
        ∃ m ∈ (forkedGraph ["x.py"] ["y.py"]).modules.modules, goesBy m target = true ∧
          m.path ∈ (forkedGraph ["x.py"] ["y.py"]).transitiveDependencies "a.py" := by
  have listed : (forkedGraph ["x.py"] ["y.py"]).transitiveDependencies "a.py" =
      ["b.py", "x.py", "c.py"] := by cbv
  have missed : (forkedGraph ["x.py"] ["y.py"]).reaches "a.py" "x.py" = false := by cbv
  have found : (forkedGraph ["x.py"] ["y.py"]).reaches "a.py" "y.py" = true := by cbv
  refine ⟨listed, missed, found, fun same => ?_⟩
  obtain ⟨m, member, goes, inList⟩ := (same "y.py").mp found
  rw [listed] at inList
  have nowhere : ∀ m ∈ (forkedGraph ["x.py"] ["y.py"]).modules.modules,
      goesBy m "y.py" = true → m.path ∉ ["b.py", "x.py", "c.py"] := by decide
  exact nowhere m member goes inList

end Graph

end DocGraph
