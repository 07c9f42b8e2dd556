import DocGraph.Proofs.Graph.Cycles
import DocGraph.Proofs.Table

/-!
# What a module reaches

`transitiveDependencies_discovers` says what the listing of a module's dependencies holds. In every
graph it names, each once, nothing but modules that are reached by one or more dependencies. Where
URIs tell modules apart it names all of them, in the order in which a recursive traversal comes
upon them.

The traversal is `Traversal`, which keeps no stack: a module that is met for the first time is gone
into before the next reference is looked at. The listing keeps what is still to be done in one list
of references instead. What ties the two together is that a traversal of references at the front of
that list leaves the ones behind them as they are.
-/

set_option autoImplicit false

namespace DocGraph

namespace Graph

/-- Following references in order, depth first. The lists are the modules that were gone into
before, the references, the modules that they lead to in the order in which they are met, each time
anew, and the modules that have been gone into afterwards. -/
inductive Traversal (g : Graph) : List Module → List String → List Module → List Module → Prop where
  | done {visited : List Module} : Traversal g visited [] [] visited
  | nowhere {visited met after : List Module} {reference : String} {rest : List String}
      (missing : g.find? reference = none) (further : Traversal g visited rest met after) :
      Traversal g visited (reference :: rest) met after
  | again {visited met after : List Module} {n : Module} {reference : String} {rest : List String}
      (found : g.find? reference = some n) (old : n ∈ visited)
      (further : Traversal g visited rest met after) :
      Traversal g visited (reference :: rest) (n :: met) after
  | enter {visited between inner outer after : List Module} {n : Module} {reference : String}
      {rest : List String} (found : g.find? reference = some n) (new : n ∉ visited)
      (within : Traversal g (n :: visited) n.dependencies inner between)
      (further : Traversal g between rest outer after) :
      Traversal g visited (reference :: rest) (n :: (inner ++ outer)) after

variable {g : Graph} {start : Module}

/-- What is found for a reference is a module of the graph. -/
theorem find_mem {reference : String} {n : Module} (h : g.find? reference = some n) :
    n ∈ g.modules.modules := by
  obtain ⟨entry, resolved, rfl⟩ := Option.map_eq_some_iff.mp h
  exact mem_of_resolve resolved

/-- What was visited stays within the graph when a module is found. -/
theorem forall_mem_visit {reference : String} {n : Module} {visited : List Module}
    (found : g.find? reference = some n) (within : ∀ m ∈ visited, m ∈ g.modules.modules) :
    ∀ m ∈ n :: visited, m ∈ g.modules.modules := by
  intro m entered
  rcases List.mem_cons.mp entered with rfl | old
  · exact find_mem found
  · exact within m old

/-! ## What is listed is reached, and once -/

/-- No path is found twice. -/
theorem nodup_discoverFrom (ms : ModuleMap) (seen found pending : List String)
    (distinct : found.Nodup) : (discoverFrom ms seen found pending).Nodup := by
  have listed : ∀ (path : String) (found : List String), found.Nodup →
      (if path ∈ found then found else path :: found).Nodup := by
    intro path found h
    split
    · exact h
    · rename_i fresh
      exact List.nodup_cons.mpr ⟨fresh, h⟩
  fun_induction discoverFrom ms seen found pending with
  | case1 seen found => exact List.nodup_reverse.mpr distinct
  | case2 seen found reference pending missing ih => exact ih distinct
  | case3 seen found reference pending entry resolved now old ih => exact ih (listed _ _ distinct)
  | case4 seen found reference pending entry resolved now new ih => exact ih (listed _ _ distinct)

/-- Whatever is listed is reached from the start, if that goes for what was listed before and for
what the pending references lead to. -/
theorem reached_of_mem_discoverFrom (seen found pending : List String)
    (before : ∀ path ∈ found, ∃ n, Relation.TransGen g.DependsOn start n ∧ n.path = path)
    (leads : ∀ reference ∈ pending, ∀ n, g.find? reference = some n →
      Relation.TransGen g.DependsOn start n) :
    ∀ path ∈ discoverFrom g.modules seen found pending,
      ∃ n, Relation.TransGen g.DependsOn start n ∧ n.path = path := by
  have listed : ∀ (entry : String × Module) (found : List String),
      Relation.TransGen g.DependsOn start entry.2 →
      (∀ path ∈ found, ∃ n, Relation.TransGen g.DependsOn start n ∧ n.path = path) →
      ∀ path ∈ (if entry.2.path ∈ found then found else entry.2.path :: found),
        ∃ n, Relation.TransGen g.DependsOn start n ∧ n.path = path := by
    intro entry found reached before path member
    split at member
    · exact before path member
    · rcases List.mem_cons.mp member with same | earlier
      · exact ⟨entry.2, reached, same.symm⟩
      · exact before path earlier
  fun_induction discoverFrom g.modules seen found pending with
  | case1 seen found =>
    intro path member
    exact before path (List.mem_reverse.mp member)
  | case2 seen found reference pending missing ih =>
    apply ih before
    intro later pends
    exact leads later (List.mem_cons_of_mem _ pends)
  | case3 seen found reference pending entry resolved now old ih =>
    have reached := leads reference List.mem_cons_self entry.2 (find_of_resolve resolved)
    apply ih (listed entry found reached before)
    intro later pends
    exact leads later (List.mem_cons_of_mem _ pends)
  | case4 seen found reference pending entry resolved now new ih =>
    have reached := leads reference List.mem_cons_self entry.2 (find_of_resolve resolved)
    apply ih (listed entry found reached before)
    intro later pends n leadsTo
    rcases List.mem_append.mp pends with own | pends
    · exact reached.tail ⟨later, own, leadsTo⟩
    · exact leads later (List.mem_cons_of_mem _ pends) n leadsTo

/-! ## Traversals -/

namespace Traversal

variable {visited met after : List Module} {references : List String}

/-- No module is forgotten. -/
theorem visited_subset (h : g.Traversal visited references met after) :
    ∀ m ∈ visited, m ∈ after := by
  induction h with
  | done => exact fun m old => old
  | nowhere missing further ih => exact ih
  | again found old further ih => exact ih
  | enter found new within further ihWithin ih =>
    intro m old
    exact ih m (ihWithin m (List.mem_cons_of_mem _ old))

/-- Only modules of the graph are gone into. -/
theorem after_subset (h : g.Traversal visited references met after)
    (within : ∀ m ∈ visited, m ∈ g.modules.modules) : ∀ m ∈ after, m ∈ g.modules.modules := by
  induction h with
  | done => exact within
  | nowhere missing further ih => exact ih within
  | again found old further ih => exact ih within
  | enter found new inside further ihInside ih =>
    apply ih
    apply ihInside
    exact forall_mem_visit found within

/-- What was met has been gone into. -/
theorem met_subset (h : g.Traversal visited references met after) : ∀ n ∈ met, n ∈ after := by
  induction h with
  | done => simp
  | nowhere missing further ih => exact ih
  | again found old further ih =>
    intro m member
    rcases List.mem_cons.mp member with rfl | member
    · exact further.visited_subset m old
    · exact ih m member
  | enter found new within further ihWithin ih =>
    intro m member
    rcases List.mem_cons.mp member with rfl | member
    · exact further.visited_subset m (within.visited_subset m List.mem_cons_self)
    · rcases List.mem_append.mp member with inner | outer
      · exact further.visited_subset m (ihWithin m inner)
      · exact ih m outer

/-- What the references lead to is met, and what a module depends on that was gone into meanwhile
is met as well. -/
theorem covers (h : g.Traversal visited references met after) :
    (∀ reference ∈ references, ∀ n, g.find? reference = some n → n ∈ met) ∧
      ∀ m ∈ after, m ∈ visited ∨ ∀ n, g.DependsOn m n → n ∈ met := by
  induction h with
  | done => exact ⟨by simp, fun m old => Or.inl old⟩
  | nowhere missing further ih =>
    refine ⟨?_, ih.2⟩
    intro r own n found
    rcases List.mem_cons.mp own with rfl | own
    · rw [missing] at found
      cases found
    · exact ih.1 r own n found
  | again found old further ih =>
    constructor
    · intro r own n leadsTo
      rcases List.mem_cons.mp own with rfl | own
      · rw [found] at leadsTo
        cases leadsTo
        exact List.mem_cons_self
      · exact List.mem_cons_of_mem _ (ih.1 r own n leadsTo)
    · intro m entered
      exact (ih.2 m entered).imp_right fun all n depends => List.mem_cons_of_mem _ (all n depends)
  | @enter visited between inner outer after n reference rest found new within further ihWithin ih =>
    have fromInner : ∀ k ∈ inner, k ∈ n :: (inner ++ outer) := by simp +contextual
    have fromOuter : ∀ k ∈ outer, k ∈ n :: (inner ++ outer) := by simp +contextual
    constructor
    · intro r own k leadsTo
      rcases List.mem_cons.mp own with rfl | own
      · rw [found] at leadsTo
        cases leadsTo
        exact List.mem_cons_self
      · exact fromOuter k (ih.1 r own k leadsTo)
    · intro m entered
      -- A module is gone into before, on the way through the new module, or behind it.
      rcases ih.2 m entered with earlier | all
      · rcases ihWithin.2 m earlier with earlier | all
        · rcases List.mem_cons.mp earlier with rfl | old
          · right
            rintro k ⟨r, own, leadsTo⟩
            exact fromInner k (ihWithin.1 r own k leadsTo)
          · exact Or.inl old
        · exact Or.inr fun k depends => fromInner k (all k depends)
      · exact Or.inr fun k depends => fromOuter k (all k depends)

/-- A traversal from a module meets all that the module reaches. -/
theorem meets (h : g.Traversal [start] start.dependencies met after) {n : Module}
    (reached : Relation.TransGen g.DependsOn start n) : n ∈ met := by
  obtain ⟨direct, all⟩ := h.covers
  induction reached with
  | single depends =>
    obtain ⟨reference, own, found⟩ := depends
    exact direct reference own _ found
  | @tail m k before depends ih =>
    rcases all m (h.met_subset m ih) with first | every
    · rw [List.mem_singleton.mp first] at depends
      obtain ⟨reference, own, found⟩ := depends
      exact direct reference own k found
    · exact every k depends

end Traversal

/-! ## The listing follows the traversal -/

/-- Where URIs tell modules apart, a module was seen exactly if its URI was. -/
theorem UrisDiffer.uri_mem_iff (differ : g.UrisDiffer) {visited : List Module} {n : Module}
    (within : ∀ m ∈ visited, m ∈ g.modules.modules) (member : n ∈ g.modules.modules) :
    n.uri ∈ visited.map Module.uri ↔ n ∈ visited := by
  constructor
  · intro seen
    obtain ⟨m, old, same⟩ := List.mem_map.mp seen
    have : m = n := differ m (within m old) n member same
    exact this ▸ old
  · exact List.mem_map_of_mem

/-- A path that is noted unless it was noted before: paths without repetitions, the last one first.
-/
theorem eraseDups_snoc (paths : List String) (path : String) :
    (if path ∈ paths.eraseDups.reverse then paths.eraseDups.reverse
      else path :: paths.eraseDups.reverse) = (paths ++ [path]).eraseDups.reverse := by
  rw [List.eraseDups_append, List.reverse_append]
  by_cases old : path ∈ paths
  · simp [old, List.removeAll]
  · simp [old, List.removeAll, List.eraseDups_cons]

section step

variable {reference : String} {entry : String × Module} (seen found pending : List String)

/-- A reference that leads nowhere is passed over. -/
theorem discoverFrom_nowhere (missing : g.find? reference = none) :
    discoverFrom g.modules seen found (reference :: pending) =
      discoverFrom g.modules seen found pending := by
  have unresolved : resolve? g.modules reference = none := by simpa [find?] using missing
  rw [discoverFrom]
  split
  · rfl
  · rename_i other resolved
    rw [unresolved] at resolved
    cases resolved

/-- A reference that resolves is noted, and its module is gone into unless its URI was seen. -/
theorem discoverFrom_resolved (resolved : resolve? g.modules reference = some entry) :
    discoverFrom g.modules seen found (reference :: pending) =
      if entry.2.uri ∈ seen then
        discoverFrom g.modules seen
          (if entry.2.path ∈ found then found else entry.2.path :: found) pending
      else
        discoverFrom g.modules (entry.2.uri :: seen)
          (if entry.2.path ∈ found then found else entry.2.path :: found)
          (entry.2.dependencies ++ pending) := by
  rw [discoverFrom]
  split
  · rename_i unresolved
    rw [resolved] at unresolved
    cases unresolved
  · rename_i other resolved'
    obtain rfl : entry = other := Option.some.inj (resolved.symm.trans resolved')
    rfl

end step

/-- References at the front of the pending ones are followed as in a traversal, and what is listed
are the paths of the modules met so far, without repetitions. -/
theorem discoverFrom_append (differ : g.UrisDiffer) {visited met after : List Module}
    {references : List String} (h : g.Traversal visited references met after)
    (within : ∀ m ∈ visited, m ∈ g.modules.modules) (earlier pending : List String) :
    discoverFrom g.modules (visited.map Module.uri) earlier.eraseDups.reverse
        (references ++ pending) =
      discoverFrom g.modules (after.map Module.uri)
        (earlier ++ met.map Module.path).eraseDups.reverse pending := by
  induction h generalizing earlier pending with
  | done => simp
  | nowhere missing further ih =>
    rw [List.cons_append, discoverFrom_nowhere _ _ _ missing]
    exact ih within earlier pending
  | @again visited met after n reference rest found old further ih =>
    obtain ⟨entry, resolved, rfl⟩ := Option.map_eq_some_iff.mp found
    have seen : entry.2.uri ∈ visited.map Module.uri := List.mem_map_of_mem old
    rw [List.cons_append, discoverFrom_resolved _ _ _ resolved, if_pos seen, eraseDups_snoc,
      ih within]
    simp
  | @enter visited between inner outer after n reference rest found new inside further ihInside ih =>
    obtain ⟨entry, resolved, rfl⟩ := Option.map_eq_some_iff.mp found
    have fresh : entry.2.uri ∉ visited.map Module.uri := by
      intro seen
      exact new ((differ.uri_mem_iff within (find_mem found)).mp seen)
    have inGraph := forall_mem_visit found within
    -- The references of the new module are now at the front, those of its own list behind them.
    rw [List.cons_append, discoverFrom_resolved _ _ _ resolved, if_neg fresh, eraseDups_snoc,
      ← List.map_cons, ihInside inGraph, ih (inside.after_subset inGraph)]
    simp

/-! ## There is a traversal -/

/-- The more URIs are seen, the fewer modules are unseen. -/
theorem unseen_le_of_subset (ms : ModuleMap) {seen seen' : List String} (h : seen ⊆ seen') :
    unseen ms seen' ≤ unseen ms seen := by
  unfold unseen
  rw [← List.countP_eq_length_filter, ← List.countP_eq_length_filter]
  apply List.countP_mono_left
  intro e _ new
  simp only [decide_eq_true_eq] at new ⊢
  exact fun old => new (h old)

/-- Going into a new module leaves fewer modules unseen, if URIs are different. -/
theorem unseen_visit_lt (differ : g.UrisDiffer) {visited : List Module} {n : Module}
    (within : ∀ m ∈ visited, m ∈ g.modules.modules) (member : n ∈ g.modules.modules)
    (new : n ∉ visited) :
    unseen g.modules ((n :: visited).map Module.uri) < unseen g.modules (visited.map Module.uri) := by
  have fresh : n.uri ∉ visited.map Module.uri := by
    intro seen
    exact new ((differ.uri_mem_iff within member).mp seen)
  obtain ⟨entry, listed, rfl⟩ := List.mem_map.mp member
  exact unseen_cons_lt listed fresh

/-- Every list of references has a traversal, since each module that is gone into leaves fewer whose
URI has not been seen. -/
theorem exists_traversal (differ : g.UrisDiffer) (visited : List Module)
    (within : ∀ m ∈ visited, m ∈ g.modules.modules) (references : List String) :
    ∃ met after, g.Traversal visited references met after := by
  match references with
  | [] => exact ⟨[], visited, .done⟩
  | reference :: rest =>
    match found : g.find? reference with
    | none =>
      obtain ⟨met, after, further⟩ := exists_traversal differ visited within rest
      exact ⟨met, after, .nowhere found further⟩
    | some n =>
      by_cases old : n ∈ visited
      · obtain ⟨met, after, further⟩ := exists_traversal differ visited within rest
        exact ⟨n :: met, after, .again found old further⟩
      · have fewer := unseen_visit_lt differ within (find_mem found) old
        have inGraph := forall_mem_visit found within
        obtain ⟨inner, between, inside⟩ := exists_traversal differ (n :: visited) inGraph n.dependencies
        have noMore : unseen g.modules (between.map Module.uri) ≤
            unseen g.modules ((n :: visited).map Module.uri) :=
          unseen_le_of_subset _ (List.map_subset _ inside.visited_subset)
        obtain ⟨outer, after, further⟩ :=
          exists_traversal differ between (inside.after_subset inGraph) rest
        exact ⟨n :: (inner ++ outer), after, .enter found old inside further⟩
termination_by (unseen g.modules (visited.map Module.uri), references.length)
decreasing_by
  · exact Prod.Lex.right _ (Nat.lt_succ_self _)
  · exact Prod.Lex.right _ (Nat.lt_succ_self _)
  · exact Prod.Lex.left _ _ fewer
  · exact Prod.Lex.left _ _ (Nat.lt_of_le_of_lt noMore fewer)

/-! ## The listing -/

/-- The listing from a module names modules that the module reaches by one or more dependencies, each
path once. Where URIs tell modules apart it names all of them, and they come in the order in which a
traversal from the module meets them first. The path of the module itself, as long as no other module
has it, is among them exactly if the module is on a cycle. -/
theorem transitiveDependencies_discovers (g : Graph) (path : String) (start : Module)
    (known : g.get? path = some start) :
    (g.transitiveDependencies path).Nodup ∧
      (∀ p ∈ g.transitiveDependencies path,
        ∃ n, Relation.TransGen g.DependsOn start n ∧ n.path = p) ∧
      (g.UrisDiffer →
        (∀ n, Relation.TransGen g.DependsOn start n → n.path ∈ g.transitiveDependencies path) ∧
        ((∀ m ∈ g.modules.modules, m.path = path ↔ m = start) →
          (path ∈ g.transitiveDependencies path ↔ Relation.TransGen g.DependsOn start start)) ∧
        (∃ met after, g.Traversal [start] start.dependencies met after) ∧
        ∀ met after, g.Traversal [start] start.dependencies met after →
          g.transitiveDependencies path = (met.map Module.path).eraseDups) := by
  have listing : g.transitiveDependencies path =
      discoverFrom g.modules [start.uri] [] start.dependencies := by
    rw [transitiveDependencies, known]
  have reached : ∀ p ∈ g.transitiveDependencies path,
      ∃ n, Relation.TransGen g.DependsOn start n ∧ n.path = p := by
    rw [listing]
    apply reached_of_mem_discoverFrom
    · simp
    · intro reference own n found
      exact .single ⟨reference, own, found⟩
  refine ⟨?_, reached, ?_⟩
  · rw [listing]
    exact nodup_discoverFrom _ _ _ _ List.nodup_nil
  intro differ
  have inGraph : ∀ m ∈ [start], m ∈ g.modules.modules := by
    intro m first
    rw [List.mem_singleton.mp first]
    exact List.mem_map_of_mem (mem_of_lookup known)
  have ordered : ∀ met after, g.Traversal [start] start.dependencies met after →
      g.transitiveDependencies path = (met.map Module.path).eraseDups := by
    intro met after traversal
    have followed := discoverFrom_append differ traversal inGraph [] []
    rw [List.append_nil, List.nil_append, discoverFrom, List.reverse_reverse] at followed
    rw [listing]
    exact followed
  obtain ⟨met, after, traversal⟩ := exists_traversal differ [start] inGraph start.dependencies
  have complete : ∀ n, Relation.TransGen g.DependsOn start n →
      n.path ∈ g.transitiveDependencies path := by
    intro n reaches
    rw [ordered met after traversal, List.mem_eraseDups]
    exact List.mem_map_of_mem (traversal.meets reaches)
  refine ⟨complete, ?_, ⟨met, after, traversal⟩, ordered⟩
  intro alone
  constructor
  · intro listed
    obtain ⟨n, reaches, here⟩ := reached path listed
    obtain ⟨m, -, last⟩ := Relation.TransGen.tail'_iff.mp reaches
    exact (alone n last.mem).mp here ▸ reaches
  · intro cycle
    have here : start.path = path := (alone start (inGraph start List.mem_cons_self)).mpr rfl
    exact here ▸ complete start cycle

/-- A module that refers to another one by its path and its URI. -/
def caller : Module :=
  { path := "a.py", uri := "urn:a", name := "a", dependencies := ["b.py", "urn:b", "gone"] }

/-- A module that refers back to the one that refers to it, and to itself. -/
def callee : Module :=
  { path := "b.py", uri := "urn:b", name := "b", dependencies := ["a", "b"] }

/-- Two modules on a cycle. -/
def looped : Graph :=
  { root := "/src", modules := [("a.py", caller), ("b.py", callee)] }

/-- Both modules on the cycle are listed, the other one first and once, though it is met three
times. -/
theorem transitiveDependencies_discovers_looped :
    looped.get? "a.py" = some caller ∧ looped.UrisDiffer ∧
      (∀ m ∈ looped.modules.modules, m.path = "a.py" ↔ m = caller) ∧
      looped.transitiveDependencies "a.py" = ["b.py", "a.py"] ∧
      Relation.TransGen looped.DependsOn caller caller := by
  have known : looped.get? "a.py" = some caller := by decide +kernel
  have differ : looped.UrisDiffer := by
    unfold UrisDiffer
    decide +kernel
  have alone : ∀ m ∈ looped.modules.modules, m.path = "a.py" ↔ m = caller := by decide +kernel
  obtain ⟨-, -, listing⟩ := transitiveDependencies_discovers looped "a.py" caller known
  obtain ⟨-, own, -, ordered⟩ := listing differ
  -- From the second module both references lead back to modules that have been gone into.
  have inner : looped.Traversal [callee, caller] callee.dependencies [caller, callee]
      [callee, caller] :=
    .again (by decide +kernel) (by decide) (.again (by decide +kernel) (by decide) .done)
  have outer : looped.Traversal [callee, caller] ["urn:b", "gone"] [callee] [callee, caller] :=
    .again (by decide +kernel) (by decide) (.nowhere (by decide +kernel) .done)
  have whole : looped.Traversal [caller] caller.dependencies
      (callee :: ([caller, callee] ++ [callee])) [callee, caller] :=
    .enter (by decide +kernel) (by decide) inner outer
  have names : looped.transitiveDependencies "a.py" = ["b.py", "a.py"] := by
    rw [ordered _ _ whole]
    decide +kernel
  refine ⟨known, differ, alone, names, (own alone).mp ?_⟩
  rw [names]
  decide

end Graph

end DocGraph
