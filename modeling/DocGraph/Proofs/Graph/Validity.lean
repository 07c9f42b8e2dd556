import DocGraph.Proofs.Graph.Cycles
import DocGraph.Proofs.Table
import Mathlib.Data.List.Induction

/-!
# Valid graphs

`isValid_iff` says which graphs pass a validation: those whose modules all have a URI and a name, in
which no two modules share a URI, and in which no module depends on itself, be it through others.

The search for cycles knows modules by their URIs only, and the check for shared URIs passes over
empty ones. Neither matters: where URIs are empty or shared the graph has errors on that account,
and elsewhere they tell modules apart.
-/

set_option autoImplicit false

namespace DocGraph

/-! ## Values under a key -/

/-- Adding a value under a key puts it behind those that are there. -/
theorem addUnder_eq_alter (table : List (String × List String)) (key value : String) :
    addUnder table key value = alter key (fun old => old.getD [] ++ [value]) table := by
  induction table with
  | nil => rfl
  | cons e rest ih => rw [addUnder, ih, alter, Option.getD_some]

/-- The values that a table has under a key. -/
def valuesUnder (table : List (String × List String)) (key : String) : List String :=
  (table.lookup key).getD []

/-- A value that is added is the last one under its key, and the only one that is new. -/
theorem valuesUnder_addUnder (table : List (String × List String)) (key value other : String) :
    valuesUnder (addUnder table key value) other =
      valuesUnder table other ++ if other = key then [value] else [] := by
  rw [valuesUnder, addUnder_eq_alter, lookup_alter]
  by_cases same : other = key
  · rw [if_pos same, if_pos same, same]
    rfl
  · rw [if_neg same, if_neg same, List.append_nil]
    rfl

namespace Graph

/-- The modules in the order of their paths are the modules. -/
theorem sorted_perm (g : Graph) : g.sorted.Perm g.modules :=
  List.mergeSort_perm _ _

/-! ## Missing fields -/

/-- A check finds nothing if it finds nothing about any module. -/
theorem issues_eq_nil_iff {ms : ModuleMap} {check : Module → List Finding} :
    issues ms check = [] ↔ ∀ e ∈ ms, check e.2 = [] := by
  rw [issues, List.flatMap_eq_nil_iff]
  constructor
  · intro h e member
    exact List.map_eq_nil_iff.mp (h e member)
  · intro h e member
    exact List.map_eq_nil_iff.mpr (h e member)

/-- A module with a URI and a name lacks nothing. -/
theorem requiredErrors_eq_nil_iff (m : Module) :
    requiredErrors m = [] ↔ m.uri ≠ "" ∧ m.name ≠ "" := by
  rw [requiredErrors, List.append_eq_nil_iff]
  by_cases noUri : m.uri = ""
  · simp [noUri]
  · by_cases noName : m.name = ""
    · simp [noName]
    · simp [noUri, noName]

/-! ## Shared URIs -/

/-- The paths of the modules with a URI. -/
def pathsWith (ms : ModuleMap) (uri : String) : List String :=
  (ms.filter fun e => e.2.uri = uri).map Prod.fst

/-- If no URI is empty, the modules are grouped by them, each group with its paths. -/
theorem valuesUnder_uriGroups {ms : ModuleMap} (present : ∀ e ∈ ms, e.2.uri ≠ "") :
    ((uriGroups ms).map Prod.fst).Nodup ∧
      ∀ uri, valuesUnder (uriGroups ms) uri = pathsWith ms uri := by
  -- From the end, since the last module is the last one to be added.
  induction ms using List.reverseRecOn with
  | nil => exact ⟨List.nodup_nil, fun uri => rfl⟩
  | append_singleton ms e ih =>
    obtain ⟨distinct, grouped⟩ := ih fun f member => present f (List.mem_append_left _ member)
    have named : e.2.uri.isEmpty = false := by
      have := present e (List.mem_append_right _ List.mem_cons_self)
      simpa using this
    have last : uriGroups (ms ++ [e]) = addUnder (uriGroups ms) e.2.uri e.1 := by
      rw [uriGroups, List.foldl_append, List.foldl_cons, List.foldl_nil, named]
      rfl
    have differ : ((uriGroups (ms ++ [e])).map Prod.fst).Nodup := by
      rw [last, addUnder_eq_alter]
      exact nodup_keys_alter _ _ distinct
    refine ⟨differ, fun uri => ?_⟩
    rw [last, valuesUnder_addUnder, grouped, pathsWith, pathsWith, List.filter_append, List.map_append]
    congr 1
    by_cases same : e.2.uri = uri
    · simp [same]
    · simp [same, Ne.symm same]

/-- How many modules have a URI. -/
theorem length_pathsWith (ms : ModuleMap) (uri : String) :
    (pathsWith ms uri).length = (ms.map fun e => e.2.uri).count uri := by
  rw [pathsWith, List.length_map, ← List.countP_eq_length_filter, List.count, List.countP_map]
  refine List.countP_congr fun e _ => ?_
  simp

/-- If no URI is empty, no errors for shared ones are found exactly if none is shared. -/
theorem duplicateErrors_eq_nil_iff {ms : ModuleMap} (present : ∀ e ∈ ms, e.2.uri ≠ "") :
    duplicateErrors ms = [] ↔ (ms.map fun e => e.2.uri).Nodup := by
  obtain ⟨distinct, grouped⟩ := valuesUnder_uriGroups present
  rw [duplicateErrors, List.flatMap_eq_nil_iff, List.nodup_iff_count_le_one]
  constructor
  · intro none_ uri
    rw [← length_pathsWith, ← grouped]
    cases found : (uriGroups ms).lookup uri with
    | none => simp [valuesUnder, found]
    | some paths =>
      have single := none_ (uri, paths) (mem_of_lookup found)
      dsimp only at single
      by_cases several : paths.length > 1
      · rw [if_pos several, List.map_eq_nil_iff] at single
        rw [single] at several
        cases several
      · simpa [valuesUnder, found] using several
  · rintro atMost ⟨uri, paths⟩ member
    have once := atMost uri
    rw [← length_pathsWith, ← grouped, valuesUnder, lookup_of_mem distinct member] at once
    exact if_neg (by simpa using once)

/-! ## Valid graphs -/

/-- A graph is valid exactly if each of its modules has a URI and a name, no two of them have the
same URI, and no chain of dependencies leads from a module back to it. -/
theorem isValid_iff (g : Graph) :
    g.validate.isValid = true ↔
      (∀ e ∈ g.modules, e.2.uri ≠ "" ∧ e.2.name ≠ "") ∧
        (g.modules.map fun e => e.2.uri).Nodup ∧
        ¬∃ m, Relation.TransGen g.DependsOn m m := by
  have same : ∀ e, e ∈ g.sorted ↔ e ∈ g.modules := fun e => g.sorted_perm.mem_iff
  have uris : (g.sorted.map fun e => e.2.uri).Nodup ↔ (g.modules.map fun e => e.2.uri).Nodup :=
    (g.sorted_perm.map _).nodup_iff
  have complete : issues g.sorted requiredErrors = [] ↔
      ∀ e ∈ g.modules, e.2.uri ≠ "" ∧ e.2.name ≠ "" := by
    rw [issues_eq_nil_iff]
    constructor
    · intro h e member
      exact (requiredErrors_eq_nil_iff e.2).mp (h e ((same e).mpr member))
    · intro h e member
      exact (requiredErrors_eq_nil_iff e.2).mpr (h e ((same e).mp member))
  simp only [Validation.isValid, validate, List.isEmpty_iff, List.append_eq_nil_iff,
    List.map_eq_nil_iff]
  rw [complete]
  constructor
  · rintro ⟨⟨fields, noCycles⟩, noDuplicates⟩
    have present : ∀ e ∈ g.sorted, e.2.uri ≠ "" := fun e member =>
      (fields e ((same e).mp member)).1
    have distinct := uris.mp ((duplicateErrors_eq_nil_iff present).mp noDuplicates)
    exact ⟨fields, distinct, (cyclesFrom_eq_nil_iff (urisDiffer_of_nodup distinct) same).mp noCycles⟩
  · rintro ⟨fields, distinct, acyclic⟩
    have present : ∀ e ∈ g.sorted, e.2.uri ≠ "" := fun e member =>
      (fields e ((same e).mp member)).1
    have noCycles := (cyclesFrom_eq_nil_iff (urisDiffer_of_nodup distinct) same).mpr acyclic
    exact ⟨⟨fields, noCycles⟩, (duplicateErrors_eq_nil_iff present).mpr (uris.mpr distinct)⟩

end Graph

end DocGraph
