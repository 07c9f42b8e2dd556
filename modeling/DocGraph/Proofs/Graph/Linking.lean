import DocGraph.Build.Ingest
import DocGraph.Proofs.Fallible
import DocGraph.Proofs.Graph.Cycles
import DocGraph.Proofs.Table

/-!
# Linking

Linking goes through the dependencies of all modules, in order, and changes the modules on the way.
`link_eq` says what comes out in one go: the dependents of each module are the paths of the modules
that depend on it, in the order of the modules and each once; the references that resolve to nothing
are listed in order; and nothing else changes.

What makes this possible is that a reference resolves by paths, URIs and names only. So it resolves
to the same module at any time, whatever dependents have been added by then.

All this is for graphs that have not been linked, whose modules are known by the paths that they
state. A graph into which files have been taken is such a graph.
-/

set_option autoImplicit false

namespace DocGraph

/-! ## Adding once -/

/-- A value that was added once need not be added again. -/
theorem addOnce_addOnce (values : List String) (value : String) :
    addOnce (addOnce values value) value = addOnce values value := by
  unfold addOnce
  by_cases there : value ∈ values
  · rw [if_pos there, if_pos there]
  · have last : value ∈ values ++ [value] := by simp
    rw [if_neg there, if_pos last]

/-- A new value is added at the end. -/
theorem addOnce_of_not_mem {values : List String} {value : String} (new : value ∉ values) :
    addOnce values value = values ++ [value] :=
  if_neg new

namespace Graph

/-- A graph that has not been linked and whose modules are known by the paths that they state. A
module states one path, so none is known by two, which is what `alone` says. -/
structure Unlinked (g : Graph) : Prop where
  distinct : (g.modules.map Prod.fst).Nodup
  own : ∀ e ∈ g.modules, e.2.path = e.1
  alone : ∀ e ∈ g.modules, g.shared.group e.1 = [e.1]
  noDependents : ∀ e ∈ g.modules, e.2.dependents = []
  noUnresolved : g.unresolved = []

/-- The paths of the modules that depend on a module, in the order of the modules. -/
def dependentPaths (g : Graph) (m : Module) : List String :=
  (g.modules.modules.filter fun n => n.dependencies.any fun reference =>
    g.find? reference = some m).map Module.path

/-- The references that resolve to nothing, with the paths of the modules that declare them, in the
order of the modules and of their references. -/
def unresolvedReferences (g : Graph) : List (String × String) :=
  g.modules.modules.flatMap fun m =>
    (m.dependencies.filter fun reference => (g.find? reference).isNone).map (m.path, ·)

/-- All references, with the paths of the modules that declare them, in order. -/
def references (g : Graph) : List (String × String) :=
  g.modules.modules.flatMap fun m => m.dependencies.map (m.path, ·)

/-- The dependents of a module once some references have been noted. -/
def dependentsAfter (g : Graph) (noted : List (String × String)) (m : Module) : List String :=
  noted.foldl (fun paths edge =>
    if g.find? edge.2 = some m then addOnce paths edge.1 else paths) []

/-- The graph once some references have been noted. -/
def noted (g : Graph) (edges : List (String × String)) : Graph :=
  { g with
    modules := g.modules.map fun e => (e.1, { e.2 with dependents := g.dependentsAfter edges e.2 })
    unresolved := edges.filter fun edge => (g.find? edge.2).isNone }

variable {g : Graph}

/-! ## One reference -/

/-- Dependents have no say in what a reference resolves to. -/
theorem resolve_of_dependents (ms : ModuleMap) (dependents : Module → List String)
    (reference : String) :
    resolve? (ms.map fun e => (e.1, { e.2 with dependents := dependents e.2 })) reference =
      (resolve? ms reference).map fun e => (e.1, { e.2 with dependents := dependents e.2 }) := by
  unfold resolve?
  by_cases empty : reference.isEmpty = true
  · rw [if_pos empty, if_pos empty]
    rfl
  · rw [if_neg empty, if_neg empty, List.find?_map, List.find?_map, List.find?_map]
    let changed (e : String × Module) : String × Module :=
      (e.1, { e.2 with dependents := dependents e.2 })
    show ((ms.find? fun e => e.1 = reference).map changed <|>
        (ms.find? fun e => e.2.uri = reference).map changed <|>
          (ms.find? fun e => e.2.answersTo reference).map changed) =
      ((ms.find? fun e => e.1 = reference) <|> (ms.find? fun e => e.2.uri = reference) <|>
        (ms.find? fun e => e.2.answersTo reference)).map changed
    cases ms.find? fun e => e.1 = reference with
    | some e => rfl
    | none =>
      cases ms.find? fun e => e.2.uri = reference with
      | some e => rfl
      | none => rfl

/-- One reference more adds to the dependents of the module that it resolves to. -/
theorem dependentsAfter_snoc (edges : List (String × String)) (path reference : String)
    (m : Module) :
    g.dependentsAfter (edges ++ [(path, reference)]) m =
      if g.find? reference = some m then addOnce (g.dependentsAfter edges m) path
      else g.dependentsAfter edges m := by
  rw [dependentsAfter, List.foldl_append]
  rfl

/-- If a reference resolves to an entry, that is the one with the module that it resolves to. -/
theorem Unlinked.find_iff (h : g.Unlinked) {reference : String} {target e : String × Module}
    (resolved : resolve? g.modules reference = some target) (member : e ∈ g.modules) :
    g.find? reference = some e.2 ↔ e.1 = target.1 := by
  rw [find_of_resolve resolved, Option.some.injEq]
  constructor
  · intro same
    rw [← h.own e member, ← h.own target (resolve?_mem resolved), same]
  · intro same
    exact congrArg Prod.snd (List.inj_on_of_nodup_map h.distinct (resolve?_mem resolved) member same.symm)

/-- Noting one reference more. -/
theorem linkOne_noted (h : g.Unlinked) (edges : List (String × String)) (path reference : String) :
    (g.noted edges).linkOne path reference = g.noted (edges ++ [(path, reference)]) := by
  have resolves : resolve? (g.noted edges).modules reference = (resolve? g.modules reference).map
      fun e => (e.1, { e.2 with dependents := g.dependentsAfter edges e.2 }) :=
    resolve_of_dependents g.modules (g.dependentsAfter edges) reference
  unfold linkOne
  rw [resolves]
  cases resolved : resolve? g.modules reference with
  | none =>
    have missing := find_of_resolve_none resolved
    simp [noted, dependentsAfter_snoc, missing]
  | some target =>
    have found := find_of_resolve resolved
    have alone : (g.noted edges).shared.group target.1 = [target.1] :=
      h.alone target (resolve?_mem resolved)
    have modules : ModuleMap.modify (g.noted edges).modules target.1 (·.addDependent path) =
        (g.noted (edges ++ [(path, reference)])).modules := by
      unfold ModuleMap.modify noted
      dsimp only
      rw [List.map_map]
      refine List.map_congr_left fun e member => ?_
      dsimp only [Function.comp]
      rw [dependentsAfter_snoc]
      -- The module that changes is found by its path, the one that depends on more by itself.
      by_cases here : e.1 = target.1
      · rw [if_pos here, if_pos ((h.find_iff resolved member).mpr here)]
        rfl
      · rw [if_neg here, if_neg fun same => here ((h.find_iff resolved member).mp same)]
    simp only [Option.map_some, modify, alone, List.foldl_cons, List.foldl_nil]
    rw [modules]
    simp [noted, found]

/-- Before any reference is noted, an unlinked graph is as it is. -/
theorem noted_nil (h : g.Unlinked) : g.noted [] = g := by
  have same : (g.modules.map fun e => (e.1, { e.2 with dependents := g.dependentsAfter [] e.2 })) =
      g.modules := by
    refine (List.map_congr_left fun e member => ?_).trans (List.map_id g.modules)
    show (e.1, { e.2 with dependents := [] }) = e
    rw [← h.noDependents e member]
  unfold noted
  rw [same, List.filter_nil, ← h.noUnresolved]

/-- Noting references one by one. -/
theorem foldl_linkOne (h : g.Unlinked) (before edges : List (String × String)) :
    edges.foldl (fun g edge => g.linkOne edge.1 edge.2) (g.noted before) =
      g.noted (before ++ edges) := by
  induction edges generalizing before with
  | nil => rw [List.foldl_nil, List.append_nil]
  | cons edge rest ih =>
    rw [List.foldl_cons, linkOne_noted h, ih, List.append_assoc, List.singleton_append]

/-- Linking notes all references. -/
theorem link_eq_noted (h : g.Unlinked) : g.link = g.noted g.references := by
  have all := foldl_linkOne h [] g.references
  rwa [noted_nil h, List.nil_append] at all

/-! ## All references -/

/-- The references of one module add its path once, if one of them resolves to the module in
question. -/
theorem foldl_references (wanted : String → Prop) [DecidablePred wanted] (path : String)
    (references values : List String) :
    (references.map (path, ·)).foldl (fun paths edge =>
        if wanted edge.2 then addOnce paths edge.1 else paths) values =
      if references.any fun reference => wanted reference then addOnce values path else values := by
  induction references generalizing values with
  | nil => rfl
  | cons reference rest ih =>
    rw [List.map_cons, List.foldl_cons, ih, List.any_cons]
    by_cases here : wanted reference
    · by_cases later : (rest.any fun reference => decide (wanted reference)) = true
      · simp [here, later, addOnce_addOnce]
      · simp [here, later]
    · simp [here]

/-- The references of all modules add the path of each module once, if one of its references resolves
to the module in question. -/
theorem foldl_all_references (wanted : String → Prop) [DecidablePred wanted] (ms : List Module)
    (values : List String) (distinct : (ms.map Module.path).Nodup)
    (fresh : ∀ m ∈ ms, m.path ∉ values) :
    (ms.flatMap fun m => m.dependencies.map (m.path, ·)).foldl (fun paths edge =>
        if wanted edge.2 then addOnce paths edge.1 else paths) values =
      values ++ (ms.filter fun m =>
        m.dependencies.any fun reference => wanted reference).map Module.path := by
  induction ms generalizing values with
  | nil => rw [List.flatMap_nil, List.foldl_nil, List.filter_nil, List.map_nil, List.append_nil]
  | cons m rest ih =>
    obtain ⟨first, distinctRest⟩ := List.nodup_cons.mp distinct
    have new : m.path ∉ values := fresh m List.mem_cons_self
    have later : ∀ n ∈ rest, n.path ∉ values := fun n member =>
      fresh n (List.mem_cons_of_mem _ member)
    -- The module adds its path or not, and either way the paths to come stay new.
    rw [List.flatMap_cons, List.foldl_append, foldl_references]
    by_cases leads : (m.dependencies.any fun reference => decide (wanted reference)) = true
    · have stillFresh : ∀ n ∈ rest, n.path ∉ values ++ [m.path] := by
        intro n member again
        rcases List.mem_append.mp again with old | same
        · exact later n member old
        · exact first (List.mem_singleton.mp same ▸ List.mem_map_of_mem member)
      rw [if_pos leads, addOnce_of_not_mem new, ih _ distinctRest stillFresh,
        List.filter_cons, if_pos leads, List.map_cons, List.append_assoc, List.singleton_append]
    · rw [if_neg leads, ih _ distinctRest later, List.filter_cons, if_neg leads]

/-- The paths that the modules of an unlinked graph state differ. -/
theorem Unlinked.paths_nodup (h : g.Unlinked) : (g.modules.modules.map Module.path).Nodup := by
  have same : g.modules.modules.map Module.path = g.modules.map Prod.fst := by
    rw [ModuleMap.modules, List.map_map]
    exact List.map_congr_left fun e member => h.own e member
  rw [same]
  exact h.distinct

/-- Once all references have been noted, the dependents of a module are the paths of the modules
that depend on it. -/
theorem dependentsAfter_references (h : g.Unlinked) (m : Module) :
    g.dependentsAfter g.references m = g.dependentPaths m :=
  foldl_all_references (fun reference => g.find? reference = some m) g.modules.modules []
    h.paths_nodup fun _ _ => List.not_mem_nil

/-- The references that lead nowhere are those among all references. -/
theorem filter_references (g : Graph) :
    (g.references.filter fun edge => (g.find? edge.2).isNone) = g.unresolvedReferences := by
  rw [references, unresolvedReferences, List.filter_flatMap]
  congr 1
  funext m
  rw [List.filter_map]
  rfl

/-! ## What linking comes to -/

/-- A module is among the dependents of another exactly if it depends on that. -/
theorem mem_dependentPaths_iff {m : Module} {path : String} :
    path ∈ g.dependentPaths m ↔
      ∃ n ∈ g.modules.modules, n.path = path ∧ g.DependsOn n m := by
  rw [dependentPaths, List.mem_map]
  constructor
  · rintro ⟨n, among, same⟩
    obtain ⟨member, leads⟩ := List.mem_filter.mp among
    obtain ⟨reference, own, found⟩ := List.any_eq_true.mp leads
    exact ⟨n, member, same, reference, own, of_decide_eq_true found⟩
  · rintro ⟨n, member, same, reference, own, found⟩
    refine ⟨n, List.mem_filter.mpr ⟨member, ?_⟩, same⟩
    exact List.any_eq_true.mpr ⟨reference, own, decide_eq_true found⟩

/-- Each module is among the dependents of another at most once. -/
theorem Unlinked.dependentPaths_nodup (h : g.Unlinked) (m : Module) :
    (g.dependentPaths m).Nodup :=
  h.paths_nodup.sublist (List.filter_sublist.map _)

/-- Linking an unlinked graph changes two things. The dependents of each module are the paths of the
modules that depend on it, in the order of the modules and each once, and the references that
resolve to nothing are listed in order. So a reference of a module makes the module a dependent of
what it resolves to or is listed, and nothing else makes a module a dependent of another. -/
theorem link_eq (g : Graph) (h : g.Unlinked) :
    g.link =
        { g with
          modules := g.modules.map fun e => (e.1, { e.2 with dependents := g.dependentPaths e.2 })
          unresolved := g.unresolvedReferences } ∧
      (∀ m, (g.dependentPaths m).Nodup) ∧
      (∀ m path, path ∈ g.dependentPaths m ↔
        ∃ n ∈ g.modules.modules, n.path = path ∧ g.DependsOn n m) ∧
      ∀ m ∈ g.modules.modules, ∀ reference ∈ m.dependencies,
        (∃ n ∈ g.modules.modules, g.find? reference = some n ∧ m.path ∈ g.dependentPaths n) ∨
          g.find? reference = none ∧ (m.path, reference) ∈ g.unresolvedReferences := by
  refine ⟨?_, h.dependentPaths_nodup, fun m path => mem_dependentPaths_iff, ?_⟩
  · have dependents : g.dependentsAfter g.references = g.dependentPaths :=
      funext (dependentsAfter_references h)
    rw [link_eq_noted h, noted, dependents, filter_references]
  · intro m member reference own
    cases found : g.find? reference with
    | some n =>
      have depends : g.DependsOn m n := ⟨reference, own, found⟩
      exact Or.inl ⟨n, depends.mem, rfl, mem_dependentPaths_iff.mpr ⟨m, member, rfl, depends⟩⟩
    | none =>
      refine Or.inr ⟨rfl, List.mem_flatMap.mpr ⟨m, member, List.mem_map.mpr ⟨reference, ?_, rfl⟩⟩⟩
      exact List.mem_filter.mpr ⟨own, by rw [found]; rfl⟩

/-- Two modules that refer to each other by path, URI and name. The second one refers to itself as
well, and the first one to something that is not there. -/
def crossed : Graph :=
  { root := "/src"
    modules :=
      [("a.py", { path := "a.py", uri := "urn:a", name := "a",
                  dependencies := ["b.py", "urn:b", "gone"] }),
        ("b.py", { path := "b.py", uri := "urn:b", name := "b", dependencies := ["a", "b"] })] }

/-- A module that another one refers to twice has it as a dependent once. -/
theorem link_eq_crossed :
    crossed.Unlinked ∧
      (crossed.link.modules.map fun e => e.2.dependents) = [["b.py"], ["a.py", "b.py"]] ∧
      crossed.link.unresolved = [("a.py", "gone")] := by
  have unlinked : crossed.Unlinked := ⟨by decide, by decide, by decide, by decide, rfl⟩
  have linked := (link_eq crossed unlinked).1
  refine ⟨unlinked, ?_, ?_⟩
  · rw [linked]
    decide +kernel
  · rw [linked]
    decide +kernel

/-! ## Graphs into which files were taken -/

/-- Setting the module of a path forgets the one that was there. -/
theorem set_eq_alter (ms : ModuleMap) (path : String) (m : Module) :
    ms.set path m = alter path (fun _ => m) ms := by
  induction ms with
  | nil => rfl
  | cons e rest ih => rw [ModuleMap.set, ih, alter]

/-- A module that is set is one more, or takes the place of the one with its path. -/
theorem mem_set {ms : ModuleMap} {path : String} {m : Module} {e : String × Module}
    (h : e ∈ ms.set path m) : e = (path, m) ∨ e ∈ ms := by
  rw [set_eq_alter] at h
  rcases mem_alter h with old | ⟨_, same, -⟩
  · exact Or.inr old
  · exact Or.inl same

/-- No path has a module in common with others if there are no groups. -/
theorem group_nil (path : String) : SharedPaths.group [] path = [path] := rfl

/-- A graph that has not been linked and in which no two paths have a module in common stays so when
a module without dependents is added. -/
theorem Unlinked.add (h : g.Unlinked) (separate : g.shared = []) {m : Module}
    (noDependents : m.dependents = []) : (g.add m).Unlinked ∧ (g.add m).shared = [] := by
  have shared : (g.add m).shared = [] := by
    show g.shared.separate m.path = []
    rw [separate]
    rfl
  have entries : ∀ e ∈ (g.add m).modules, e = (m.path, m) ∨ e ∈ g.modules :=
    fun e member => mem_set member
  have distinct : ((g.add m).modules.map Prod.fst).Nodup := by
    show ((g.modules.set m.path m).map Prod.fst).Nodup
    rw [set_eq_alter]
    exact nodup_keys_alter _ _ h.distinct
  refine ⟨⟨distinct, ?_, ?_, ?_, h.noUnresolved⟩, shared⟩
  · intro e member
    rcases entries e member with rfl | old
    · rfl
    · exact h.own e old
  · intro e member
    rw [shared]
    exact group_nil e.1
  · intro e member
    rcases entries e member with rfl | old
    · exact noDependents
    · exact h.noDependents e old

/-- What no value can change is in the module that triples describe what it was at first. -/
theorem ofTriples_keeps {α : Type} (view : Module → α)
    (field : ∀ m value f, view (Module.put m value f) = view m)
    (property : ∀ m predicate value, view (Module.addProperty m predicate value) = view m)
    (path subject : String) (triples : List Triple) :
    view (Module.ofTriples path subject triples) = view { path, uri := subject } := by
  have kept : ∀ (m : Module) (predicate value : String),
      view (m.apply predicate value) = view m := by
    intro m predicate value
    unfold Module.apply
    split
    next f _ => exact field m value f
    · exact property m predicate value
  have all : ∀ (told : List Triple) (m : Module),
      view (told.foldl (fun m t => m.apply t.predicate t.moduleValue) m) = view m := by
    intro told
    induction told with
    | nil => exact fun m => rfl
    | cons t rest ih =>
      intro m
      rw [List.foldl_cons, ih, kept]
  exact all _ _

/-- The module that triples describe has no dependents. -/
theorem dependents_ofTriples (path subject : String) (triples : List Triple) :
    (Module.ofTriples path subject triples).dependents = [] :=
  ofTriples_keeps Module.dependents (fun _ _ f => by cases f <;> rfl) (fun _ _ _ => rfl) _ _ _

/-- The module that triples describe has the path of their file. -/
theorem path_ofTriples (path subject : String) (triples : List Triple) :
    (Module.ofTriples path subject triples).path = path :=
  ofTriples_keeps Module.path (fun _ _ f => by cases f <;> rfl) (fun _ _ _ => rfl) _ _ _

/-- A graph that has not been linked stays so when a file is taken in. -/
theorem Unlinked.ingest (h : g.Unlinked) (separate : g.shared = []) {reader : TripleReader}
    {root path : Path} {after : Graph} (taken : g.ingest reader root path = .ok after) :
    after.Unlinked ∧ after.shared = [] := by
  unfold Graph.ingest at taken
  split at taken
  next triples read =>
    unfold addTriples at taken
    split at taken
    next store added =>
      cases taken
      have stored : Graph.Unlinked { g with store } :=
        ⟨h.distinct, h.own, h.alone, h.noDependents, h.noUnresolved⟩
      unfold addModuleOf
      split
      · exact stored.add separate (dependents_ofTriples _ _ _)
      · exact ⟨stored, separate⟩
    · cases taken
  next failure line read =>
    cases taken
    exact ⟨⟨h.distinct, h.own, h.alone, h.noDependents, h.noUnresolved⟩, separate⟩
  · cases taken

/-- A graph into which files have been taken, and nothing else was done, has not been linked and has
its modules under the paths that they state. -/
theorem unlinked_of_ingestAll {reader : TripleReader} {root : Path} {name : String}
    {paths : List Path} {after : Graph}
    (taken : ingestAll reader root { root := name } paths = .ok after) : after.Unlinked := by
  have all : ∀ (paths : List Path) (g : Graph), g.Unlinked → g.shared = [] →
      ingestAll reader root g paths = .ok after → after.Unlinked := by
    intro paths
    induction paths with
    | nil =>
      intro g h _ taken
      cases taken
      exact h
    | cons path rest ih =>
      intro g h separate taken
      rw [ingestAll, List.foldlM_cons] at taken
      obtain ⟨middle, one, others⟩ := bind_eq_ok_iff.mp taken
      obtain ⟨still, stillSeparate⟩ := h.ingest separate one
      exact ih middle still stillSeparate others
  refine all paths { root := name } ⟨List.nodup_nil, ?_, ?_, ?_, rfl⟩ rfl taken
  · intro e impossible
    cases impossible
  · intro e impossible
    cases impossible
  · intro e impossible
    cases impossible

end Graph

end DocGraph
