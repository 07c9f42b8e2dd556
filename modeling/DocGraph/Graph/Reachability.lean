import DocGraph.Graph

/-!
# Reachability

Following dependencies. Two walks over a graph answer what a module reaches: one lists the
modules in the order of their discovery, the other looks for a target and stops there. Both
expand the dependencies of each URI once, which bounds them: every expansion leaves fewer
modules whose URI has not been seen.
-/

set_option autoImplicit false

namespace DocGraph

/-- How many modules have a URI that has not been seen. -/
def unseen (ms : ModuleMap) (seen : List String) : Nat :=
  (ms.filter fun e => e.2.uri ∉ seen).length

/-- What a reference resolves to is in the table. -/
theorem resolve?_mem {ms : ModuleMap} {reference : String} {entry : String × Module}
    (h : Graph.resolve? ms reference = some entry) : entry ∈ ms := by
  unfold Graph.resolve? at h
  split at h
  · simp at h
  · cases h1 : ms.find? fun e => e.1 = reference with
    | some e =>
      rw [h1] at h
      exact Option.some.inj h ▸ List.mem_of_find?_eq_some h1
    | none =>
      rw [h1] at h
      cases h2 : ms.find? fun e => e.2.uri = reference with
      | some e =>
        rw [h2] at h
        exact Option.some.inj h ▸ List.mem_of_find?_eq_some h2
      | none =>
        rw [h2] at h
        exact List.mem_of_find?_eq_some h

/-- Seeing one more URI leaves no more modules unseen. -/
theorem unseen_cons_le (ms : ModuleMap) (seen : List String) (uri : String) :
    unseen ms (uri :: seen) ≤ unseen ms seen := by
  unfold unseen
  rw [← List.countP_eq_length_filter, ← List.countP_eq_length_filter]
  refine List.countP_mono_left fun e _ he => ?_
  simp only [List.mem_cons, not_or, decide_eq_true_eq] at he ⊢
  exact he.2

/-- Seeing the URI of a module for the first time leaves fewer modules unseen. -/
theorem unseen_cons_lt {ms : ModuleMap} {seen : List String} {entry : String × Module}
    (hmem : entry ∈ ms) (hnew : entry.2.uri ∉ seen) :
    unseen ms (entry.2.uri :: seen) < unseen ms seen := by
  induction ms with
  | nil => simp at hmem
  | cons e rest ih =>
    have hle := unseen_cons_le rest seen entry.2.uri
    unfold unseen at ih hle ⊢
    simp only [List.filter_cons]
    rcases List.mem_cons.1 hmem with rfl | hrest
    · simp only [List.mem_cons, true_or, not_true_eq_false, decide_false, hnew,
        not_false_eq_true, decide_true, if_true, List.length_cons]
      simp only [List.mem_cons] at hle
      simpa using Nat.lt_succ_of_le hle
    · have hlt := ih hrest
      by_cases h1 : e.2.uri ∈ seen
      · simpa [h1] using hlt
      · by_cases h2 : e.2.uri = entry.2.uri
        · have := Nat.lt_succ_of_lt hlt
          simpa [h1, h2, hnew] using this
        · simpa [h1, h2] using hlt

namespace Graph

/-- List what the pending references lead to. `seen` are the URIs whose dependencies were
followed, `found` the paths listed so far, newest first. -/
def discoverFrom (ms : ModuleMap) (seen found : List String) : List String → List String
  | [] => found.reverse
  | reference :: pending =>
    match _h : resolve? ms reference with
    | none => discoverFrom ms seen found pending
    | some entry =>
      let listed := if entry.2.path ∈ found then found else entry.2.path :: found
      if _hnew : entry.2.uri ∈ seen then discoverFrom ms seen listed pending
      else discoverFrom ms (entry.2.uri :: seen) listed (entry.2.dependencies ++ pending)
termination_by pending => (unseen ms seen, pending.length)
decreasing_by
  · exact Prod.Lex.right _ (Nat.lt_succ_self _)
  · exact Prod.Lex.right _ (Nat.lt_succ_self _)
  · exact Prod.Lex.left _ _ (unseen_cons_lt (resolve?_mem _h) _hnew)

/-- The paths of all modules that a module reaches, in the order of their discovery. The module
itself is among them if it lies on a cycle. -/
def transitiveDependencies (g : Graph) (path : String) : List String :=
  match g.get? path with
  | some start => discoverFrom g.modules [start.uri] [] start.dependencies
  | none => []

/-- Whether a module goes by a path or a URI. -/
def goesBy (m : Module) (target : String) : Bool :=
  target = m.path || target = m.uri

/-- Look for a target among the dependencies of the modules on a stack, whose paths are given,
topmost first. -/
def searchFrom (ms : ModuleMap) (target : String) (seen : List String) : List String → Bool
  | [] => false
  | path :: stack =>
    match _h : ms.find? fun e => e.1 = path with
    | none => searchFrom ms target seen stack
    | some entry =>
      if _hnew : entry.2.uri ∈ seen then searchFrom ms target seen stack
      else
        let targets := entry.2.dependencies.filterMap (resolve? ms)
        if targets.any fun e => goesBy e.2 target then true
        else
          searchFrom ms target (entry.2.uri :: seen)
            ((targets.map Prod.fst).reverse ++ stack)
termination_by stack => (unseen ms seen, stack.length)
decreasing_by
  · exact Prod.Lex.right _ (Nat.lt_succ_self _)
  · exact Prod.Lex.right _ (Nat.lt_succ_self _)
  · exact Prod.Lex.left _ _ (unseen_cons_lt (List.mem_of_find?_eq_some _h) _hnew)

/-- Whether a target, given by path or URI, is reached from the dependencies of a module. -/
def reaches (g : Graph) (path target : String) : Bool :=
  match g.get? path with
  | some _ => searchFrom g.modules target [] [path]
  | none => false

end Graph

end DocGraph
