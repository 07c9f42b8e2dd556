import DocGraph.Proofs.Build.Storing

/-!
# Who refers to a file

Who refers to a module is worked out by linking: a reference belongs to the module that it resolves
to. For a path without a module the references are searched for the path itself. `build_attributes`
says how the two fit together. What is found in a search is listed as unresolved exactly if the path
resolves to nothing.

A path without a module may resolve to a module all the same, by the URI of that module, by its name,
or by the end of its path. Then the reference counts for that module, and a search for the path finds
it as well, as `build_of_borrowed` shows.
-/

set_option autoImplicit false

namespace DocGraph

namespace Graph

variable {g : Graph} {path : String}

/-! ## Resolving -/

/-- A reference resolves to nothing if it is empty, or if it is the path, URI or name of no module
and no module's path ends with it. -/
theorem resolve?_eq_none_iff (ms : ModuleMap) (reference : String) :
    resolve? ms reference = none ↔ reference = "" ∨
      ∀ e ∈ ms, e.1 ≠ reference ∧ e.2.uri ≠ reference ∧ e.2.name ≠ reference ∧
        ¬reference.toList <:+ e.2.path.toList := by
  unfold resolve?
  by_cases empty : reference = ""
  · rw [if_pos (String.isEmpty_iff.mpr empty)]
    exact iff_of_true rfl (Or.inl empty)
  · rw [if_neg fun h => empty (String.isEmpty_iff.mp h)]
    simp only [Option.orElse_eq_orElse, Option.orElse_eq_or, Option.or_eq_none_iff,
      List.find?_eq_none, Module.answersTo, decide_eq_true_eq, Bool.or_eq_true,
      List.isSuffixOf_iff_suffix, not_or]
    constructor
    · rintro ⟨paths, uris, others⟩
      exact Or.inr fun e member => ⟨paths e member, uris e member, others e member⟩
    · rintro (same | none_)
      · exact absurd same empty
      · exact ⟨fun e member => (none_ e member).1, fun e member => (none_ e member).2.1,
          fun e member => (none_ e member).2.2⟩

/-! ## Linked graphs -/

/-- A graph that says of itself who refers to what. Its modules are known by the paths that they
state, each of them has the paths of the modules that depend on it, and the references that resolve
to nothing are listed. -/
structure Linked (g : Graph) : Prop where
  distinct : (g.modules.modules.map Module.path).Nodup
  own : ∀ e ∈ g.modules, e.2.path = e.1
  dependents : ∀ m ∈ g.modules.modules, m.dependents = g.dependentPaths m
  unresolved : g.unresolved = g.unresolvedReferences

/-- A module with its dependents. -/
def withDependents (g : Graph) (m : Module) : Module :=
  { m with dependents := g.dependentPaths m }

/-- The entries of a linked graph are those from before, with dependents. -/
theorem modules_link (h : g.Unlinked) :
    g.link.modules = g.modules.map fun e => (e.1, g.withDependents e.2) := by
  rw [link_eq_noted h, noted, funext (dependentsAfter_references h)]
  rfl

/-- The modules of a linked graph are the modules with their dependents. -/
theorem modules_modules_link (h : g.Unlinked) :
    g.link.modules.modules = g.modules.modules.map g.withDependents := by
  rw [modules_link h, ModuleMap.modules, ModuleMap.modules, List.map_map, List.map_map]
  rfl

/-- Linking has no say in what a reference resolves to. -/
theorem find?_link (h : g.Unlinked) (reference : String) :
    g.link.find? reference = (g.find? reference).map g.withDependents := by
  rw [find?, modules_link h, find?, Option.map_map]
  refine (congrArg (Option.map Prod.snd)
    (resolve_of_dependents g.modules g.dependentPaths reference)).trans ?_
  rw [Option.map_map]
  rfl

/-- Linking does not change who depends on a module. -/
theorem dependentPaths_link (h : g.Unlinked) {m : Module} (member : m ∈ g.modules.modules) :
    g.link.dependentPaths (g.withDependents m) = g.dependentPaths m := by
  have same : ∀ reference, g.link.find? reference = some (g.withDependents m) ↔
      g.find? reference = some m := by
    intro reference
    rw [find?_link h, Option.map_eq_some_iff]
    constructor
    · rintro ⟨n, found, alike⟩
      obtain ⟨e, resolved, rfl⟩ := Option.map_eq_some_iff.mp found
      have paths : (g.withDependents e.2).path = (g.withDependents m).path :=
        congrArg Module.path alike
      rw [found, List.inj_on_of_nodup_map h.paths_nodup (mem_of_resolve resolved) member paths]
    · exact fun found => ⟨m, found, rfl⟩
  rw [dependentPaths, modules_modules_link h, List.filter_map, List.map_map]
  simp only [same]
  rfl

/-- Linking does not change which references lead nowhere. -/
theorem unresolvedReferences_link (h : g.Unlinked) :
    g.link.unresolvedReferences = g.unresolvedReferences := by
  rw [unresolvedReferences, modules_modules_link h, List.flatMap_map, unresolvedReferences]
  simp only [find?_link h, Option.isNone_map]
  rfl

/-- Linking makes a linked graph. -/
theorem Unlinked.linked (h : g.Unlinked) : g.link.Linked where
  distinct := by
    rw [modules_modules_link h, List.map_map]
    exact h.paths_nodup
  own := by
    rw [modules_link h]
    intro e member
    obtain ⟨before, listed, rfl⟩ := List.mem_map.mp member
    exact h.own before listed
  dependents := by
    rw [modules_modules_link h]
    intro m member
    obtain ⟨before, listed, rfl⟩ := List.mem_map.mp member
    exact (dependentPaths_link h listed).symm
  unresolved := by
    rw [unresolvedReferences_link h, link_eq_noted h, ← filter_references]
    rfl

/-- The graph of files is linked. -/
theorem linked_ofFiles {reader : TripleReader} {root : Path} {paths : List Path}
    (goes : (paths.map (reader.intake root)).findSome? Intake.halt? = none) :
    (ofFiles reader root paths).Linked := by
  -- What is counted in the end is in none of the fields.
  have linked := (unlinked_foldl_take goes).linked
  exact ⟨linked.distinct, linked.own, linked.dependents, linked.unresolved⟩

/-! ## Paths without a module -/

/-- The paths found for a path without a module. -/
theorem dependents_of_get?_none (undocumented : g.get? path = none) :
    g.dependents path =
      (g.modules.modules.filter fun m => path ∈ m.dependencies).map Module.path := by
  rw [dependents, undocumented]

/-- The dependents of an undocumented file are the modules with its path among their dependencies.
-/
theorem mem_dependents_iff (undocumented : g.get? path = none) {other : String} :
    other ∈ g.dependents path ↔
      ∃ m ∈ g.modules.modules, m.path = other ∧ path ∈ m.dependencies := by
  rw [dependents_of_get?_none undocumented, List.mem_map]
  simp only [List.mem_filter, decide_eq_true_eq]
  constructor
  · rintro ⟨m, ⟨member, own⟩, same⟩
    exact ⟨m, member, same, own⟩
  · rintro ⟨m, member, same, own⟩
    exact ⟨m, ⟨member, own⟩, same⟩

/-- The references that lead nowhere are the dependencies that find no module. -/
theorem mem_unresolvedReferences_iff {other reference : String} :
    (other, reference) ∈ g.unresolvedReferences ↔
      (∃ m ∈ g.modules.modules, m.path = other ∧ reference ∈ m.dependencies) ∧
        g.find? reference = none := by
  simp only [unresolvedReferences, List.mem_flatMap, List.mem_map, List.mem_filter,
    Option.isNone_iff_eq_none, Prod.mk.injEq]
  constructor
  · rintro ⟨m, member, found, ⟨own, nothing⟩, same, rfl⟩
    exact ⟨⟨m, member, same, own⟩, nothing⟩
  · rintro ⟨⟨m, member, same, own⟩, nothing⟩
    exact ⟨m, member, reference, ⟨own, nothing⟩, same, rfl⟩

/-- A path that is not known is the path of no entry. -/
theorem ne_of_get?_none (undocumented : g.get? path = none) {e : String × Module}
    (member : e ∈ g.modules) : e.1 ≠ path := by
  have missing := List.lookup_eq_none_iff.mp undocumented e member
  exact (bne_iff_ne.mp missing).symm

/-- A path without a module resolves to nothing if it is empty, or if it is the URI or the name of
no module and no module's path ends with it. -/
theorem find?_eq_none_iff (undocumented : g.get? path = none) :
    g.find? path = none ↔ path = "" ∨ ∀ n ∈ g.modules.modules,
      n.uri ≠ path ∧ n.name ≠ path ∧ ¬path.toList <:+ n.path.toList := by
  rw [find?, Option.map_eq_none_iff, resolve?_eq_none_iff]
  refine or_congr_right ⟨fun none_ n member => ?_, fun none_ e member => ?_⟩
  · obtain ⟨e, listed, rfl⟩ := List.mem_map.mp member
    exact (none_ e listed).2
  · exact ⟨ne_of_get?_none undocumented member, none_ e.2 (List.mem_map_of_mem member)⟩

/-- The module to which a path without a module resolves is known by another path, and has for
dependents all that refer to that path. -/
theorem Linked.mem_dependents (h : g.Linked) (undocumented : g.get? path = none) {owner : Module}
    (found : g.find? path = some owner) :
    owner.path ≠ path ∧ ∀ other ∈ g.dependents path, other ∈ owner.dependents := by
  obtain ⟨e, resolved, rfl⟩ := Option.map_eq_some_iff.mp found
  constructor
  · rw [h.own e (resolve?_mem resolved)]
    exact ne_of_get?_none undocumented (resolve?_mem resolved)
  · intro other refers
    obtain ⟨m, member, same, own⟩ := (mem_dependents_iff undocumented).mp refers
    rw [h.dependents e.2 (mem_of_resolve resolved)]
    exact mem_dependentPaths_iff.mpr ⟨m, member, same, path, own, found⟩

end Graph

namespace Site

/-- In the graph of a build, the modules that refer to a path without a module are found by the path,
each of them once. They are listed as unresolved exactly if the path resolves to nothing, which it
does if it is empty, or if it is the URI or the name of no module and no module's path ends with it.
If it does resolve to a module, that is the module of another path, and has all of them among its
dependents. -/
theorem build_attributes (site : Site) (registry : Registry) (reader : TripleReader) (start : Path)
    (o : BuildOptions) (g : Graph) (made : site.Makes registry reader start o g) (path : String)
    (undocumented : g.get? path = none) :
    (g.dependents path).Nodup ∧
      (∀ other, other ∈ g.dependents path ↔
        ∃ m ∈ g.modules.modules, m.path = other ∧ path ∈ m.dependencies) ∧
      (∀ other, (other, path) ∈ g.unresolved ↔
        other ∈ g.dependents path ∧ g.find? path = none) ∧
      (g.find? path = none ↔ path = "" ∨ ∀ n ∈ g.modules.modules,
        n.uri ≠ path ∧ n.name ≠ path ∧ ¬path.toList <:+ n.path.toList) ∧
      ∀ owner, g.find? path = some owner →
        owner.path ≠ path ∧ ∀ other ∈ g.dependents path, other ∈ owner.dependents := by
  obtain ⟨root, scan, -, -, goes, rfl⟩ := scanned_of_makes made
  have linked := Graph.linked_ofFiles goes
  refine ⟨?_, fun other => Graph.mem_dependents_iff undocumented, fun other => ?_,
    Graph.find?_eq_none_iff undocumented, fun owner => linked.mem_dependents undocumented⟩
  · rw [Graph.dependents_of_get?_none undocumented]
    exact linked.distinct.sublist (List.filter_sublist.map _)
  · rw [linked.unresolved, Graph.mem_unresolvedReferences_iff,
      Graph.mem_dependents_iff undocumented]

end Site

/-! ## A name that is another file's path -/

/-- A file with a module that refers to two paths without a module. -/
def borrower : List UInt8 :=
  fileWith "<a> a code:Module; code:linksTo <lib.py>, <gone.py> ."

/-- A file with a module that has one of the two paths as its name. -/
def lender : List UInt8 :=
  fileWith "<b> a code:Module; code:name \"lib.py\" ."

/-- The modules of both, before they are linked. -/
def borrowerModule : Module :=
  { path := "a.py", uri := "a", dependencies := ["lib.py", "gone.py"] }

/-- The module of the second file. -/
def lenderModule : Module :=
  { path := "b.py", uri := "b", name := "lib.py" }

/-- Both files are taken, each with its module. -/
theorem intakes_of_borrowed :
    intakeOf "a.py" borrower =
        .taken (intakeOf "a.py" borrower).rows (some borrowerModule) ∧
      intakeOf "b.py" lender = .taken (intakeOf "b.py" lender).rows (some lenderModule) := by
  have first : (intakeOf "a.py" borrower).described? = some borrowerModule := by decide +kernel
  have second : (intakeOf "b.py" lender).described? = some lenderModule := by decide +kernel
  exact ⟨Intake.eq_taken first, Intake.eq_taken second⟩

namespace Site

/-- The two files next to each other. -/
abbrev borrowed : Site :=
  duo borrower lender

/-- The graph of their build. -/
def borrowedGraph : Graph :=
  Graph.ofFiles borrowed.files.tripleReader ⟨1, ["src"]⟩
    [⟨1, ["src", "a.py"]⟩, ⟨1, ["src", "b.py"]⟩]

/-- The files of the tree are taken in this order. -/
theorem borrowed_intakes :
    [⟨1, ["src", "a.py"]⟩, ⟨1, ["src", "b.py"]⟩].map
        (borrowed.files.tripleReader.intake ⟨1, ["src"]⟩) =
      [.taken (intakeOf "a.py" borrower).rows (some borrowerModule),
        .taken (intakeOf "b.py" lender).rows (some lenderModule)] := by
  obtain ⟨first, second⟩ := intakes_of_borrowed
  rw [duo_intakes_eq, ← first, ← second]

/-- The tree builds the graph with both modules. -/
theorem borrowed_build :
    (borrowed.build .standard borrowed.files.tripleReader ⟨1, ["src"]⟩
      { scan := duoOptions }).result = .ok borrowedGraph := by
  obtain ⟨first, second⟩ := intakes_of_borrowed
  refine duo_build (hasStartMark_append _) (hasStartMark_append _) ?_ ?_
  · rw [first]
    rfl
  · rw [second]
    rfl

/-- The reference by the name makes a dependent, and the other one is listed. -/
theorem borrowed_graph :
    borrowedGraph.modules =
        [("a.py", borrowerModule), ("b.py", { lenderModule with dependents := ["a.py"] })] ∧
      borrowedGraph.unresolved = [("a.py", "gone.py")] := by
  unfold borrowedGraph Graph.ofFiles
  rw [borrowed_intakes]
  decide +kernel

/-- The paths that are asked for have no module. -/
theorem borrowed_undocumented :
    borrowedGraph.get? "lib.py" = none ∧ borrowedGraph.get? "gone.py" = none := by
  unfold Graph.get?
  rw [borrowed_graph.1]
  decide

/-- The path that is nobody's name is listed, and the one that is a name is not. -/
theorem build_attributes_in_borrowed :
    borrowed.Makes .standard borrowed.files.tripleReader ⟨1, ["src"]⟩ { scan := duoOptions }
        borrowedGraph ∧
      ("a.py", "gone.py") ∈ borrowedGraph.unresolved ∧
      ∀ other, (other, "lib.py") ∉ borrowedGraph.unresolved := by
  have made : borrowed.Makes .standard borrowed.files.tripleReader ⟨1, ["src"]⟩
      { scan := duoOptions } borrowedGraph := Or.inl borrowed_build
  obtain ⟨named, gone⟩ := borrowed_undocumented
  obtain ⟨-, found, listed, nothing, -⟩ := build_attributes borrowed .standard
    borrowed.files.tripleReader ⟨1, ["src"]⟩ { scan := duoOptions } borrowedGraph made "gone.py" gone
  obtain ⟨-, -, listedToo, -, -⟩ := build_attributes borrowed .standard
    borrowed.files.tripleReader ⟨1, ["src"]⟩ { scan := duoOptions } borrowedGraph made "lib.py" named
  have modules : borrowedGraph.modules.modules =
      [borrowerModule, { lenderModule with dependents := ["a.py"] }] := by
    rw [borrowed_graph.1]
    rfl
  rw [modules] at found nothing
  refine ⟨made, (listed "a.py").mpr ⟨?_, nothing.mpr (Or.inr (by decide))⟩, fun other unresolved => ?_⟩
  · exact (found "a.py").mpr ⟨borrowerModule, List.mem_cons_self, rfl, by decide⟩
  · have resolved := ((listedToo other).mp unresolved).2
    unfold Graph.find? at resolved
    rw [borrowed_graph.1] at resolved
    exact absurd resolved (by decide)

/-- The first module depends on the second one, whose name it refers to. It is found for a path as
well that has no module and is the same as that name, and it is not listed as unresolved. -/
theorem build_of_borrowed :
    ∃ g m, (borrowed.build .standard borrowed.files.tripleReader ⟨1, ["src"]⟩
        { scan := duoOptions }).result = .ok g ∧
      g.get? "lib.py" = none ∧ g.dependents "lib.py" = ["a.py"] ∧
      ("a.py", "lib.py") ∉ g.unresolved ∧
      g.get? "b.py" = some m ∧ g.find? "lib.py" = some m ∧ m.dependents = ["a.py"] := by
  obtain ⟨modules, unresolved⟩ := borrowed_graph
  obtain ⟨named, -⟩ := borrowed_undocumented
  refine ⟨borrowedGraph, { lenderModule with dependents := ["a.py"] }, borrowed_build, named,
    ?_, ?_, ?_, ?_, rfl⟩
  · rw [Graph.dependents_of_get?_none named, modules]
    decide
  · rw [unresolved]
    decide
  · unfold Graph.get?
    rw [modules]
    decide
  · unfold Graph.find?
    rw [modules]
    decide

end Site

end DocGraph
