import DocGraph.Scan.Walk
import Mathlib.Tactic.SplitIfs

/-!
# Plans that can be read

A plan is readable if every glob among its rules and its patterns compiles. Then the rules say of
each path whether it is ignored, and the patterns whether it is included, so nothing but its own
course ends a walk. Only a rule with a wildcard and without a slash at its end is a glob; what is
wrong with any other rule does not matter.
-/

set_option autoImplicit false

namespace DocGraph

/-- Whether a pattern can be compiled. -/
def Glob.Compiles (pattern : String) : Prop :=
  ∃ g, Glob.compile pattern = .ok g

namespace IgnoreRules

/-- Whether a rule, with forward slashes, may have to be read as a glob. -/
def IsGlob (rule : List Char) : Prop :=
  hasWildcard rule = true ∧ rule.getLast? ≠ some '/'

/-- Whether every rule that may have to be read as a glob can be. -/
def Readable (rules : IgnoreRules) : Prop :=
  ∀ rule ∈ rules, IsGlob (forwardSlashes rule.toList) →
    Glob.Compiles (String.ofList (forwardSlashes rule.toList))

end IgnoreRules

/-- A pattern that compiles says of every path whether it matches. -/
theorem Glob.Compiles.matches_ok {pattern : String} (h : Glob.Compiles pattern) (path : String) :
    ∃ b, Glob.matches? pattern path = .ok b := by
  obtain ⟨g, compiled⟩ := h
  exact ⟨g.matchesNormal (Glob.normalPath path.toList), by
    rw [Glob.matches?, compiled]
    rfl⟩

/-- Patterns that compile say of every path whether one of them matches. -/
theorem Glob.matchesAny_ok (path : String) {patterns : List String}
    (h : ∀ pattern ∈ patterns, Glob.Compiles pattern) :
    ∃ b, Glob.matchesAny? path patterns = .ok b := by
  induction patterns with
  | nil => exact ⟨false, rfl⟩
  | cons pattern rest ih =>
    obtain ⟨b, matched⟩ := (h pattern List.mem_cons_self).matches_ok path
    rw [Glob.matchesAny?, matched]
    cases b with
    | true => exact ⟨true, rfl⟩
    | false => exact ih fun p member => h p (List.mem_cons_of_mem _ member)

namespace IgnoreRules

/-- A rule says of every path whether it names it, if it compiles where it is a glob. -/
theorem ruleMatches_ok (rule path : List Char)
    (h : IsGlob rule → Glob.Compiles (String.ofList rule)) : ∃ b, ruleMatches rule path = .ok b := by
  unfold ruleMatches
  split_ifs with empty same bare ending directory wild
  any_goals exact ⟨_, rfl⟩
  exact (h ⟨wild, directory⟩).matches_ok _

/-- Readable rules say of every path whether one of them names it. -/
theorem Readable.anyMatches_ok {rules : IgnoreRules} (h : rules.Readable) (path : List Char) :
    ∃ b, rules.anyMatches path = .ok b := by
  induction rules with
  | nil => exact ⟨false, rfl⟩
  | cons rule rest ih =>
    obtain ⟨b, matched⟩ :=
      ruleMatches_ok (forwardSlashes rule.toList) path (h rule List.mem_cons_self)
    rw [anyMatches, matched]
    cases b with
    | true => exact ⟨true, rfl⟩
    | false => exact ih fun r member => h r (List.mem_cons_of_mem _ member)

/-- Readable rules say of every path whether it is ignored. -/
theorem Readable.ignores_ok {rules : IgnoreRules} (h : rules.Readable) (path : String) :
    ∃ b, rules.ignores path = .ok b := by
  unfold ignores
  dsimp only
  split
  · exact ⟨false, rfl⟩
  · exact h.anyMatches_ok _

end IgnoreRules

namespace WalkPlan

/-- Whether every glob of a plan can be compiled. -/
structure Readable (plan : WalkPlan) : Prop where
  rules : IgnoreRules.Readable plan.rules
  patterns : ∀ pattern ∈ plan.includePatterns, Glob.Compiles pattern

/-- Whether a path is known not to be ignored. -/
def keeps (plan : WalkPlan) (path : Path) : Bool :=
  match plan.ignores path with
  | .ok ignored => !ignored
  | .error _ => false

/-- Whether a path is known to be included. -/
def wants (plan : WalkPlan) (path : Path) : Bool :=
  match plan.includes path with
  | .ok included => included
  | .error _ => false

variable {plan : WalkPlan}

/-- A path is kept exactly if it is not ignored. -/
theorem keeps_iff (path : Path) : plan.keeps path = true ↔ plan.ignores path = .ok false := by
  unfold keeps
  cases plan.ignores path with
  | error e => simp
  | ok ignored => simp

/-- A path is wanted exactly if it is included. -/
theorem wants_iff (path : Path) : plan.wants path = true ↔ plan.includes path = .ok true := by
  unfold wants
  cases plan.includes path with
  | error e => simp
  | ok included => simp

/-- Every path of a readable plan is kept or ignored. -/
theorem Readable.ignores_eq (h : plan.Readable) (path : Path) :
    plan.ignores path = .ok !plan.keeps path := by
  obtain ⟨b, answered⟩ := h.rules.ignores_ok (plan.relative path)
  have same : plan.ignores path = .ok b := answered
  rw [keeps, same, Bool.not_not]

/-- Every path of a readable plan is wanted or not included. -/
theorem Readable.includes_eq (h : plan.Readable) (path : Path) :
    plan.includes path = .ok (plan.wants path) := by
  have answered : ∃ b, plan.includes path = .ok b := by
    unfold includes
    split
    · exact ⟨true, rfl⟩
    · exact Glob.matchesAny_ok _ h.patterns
  obtain ⟨b, same⟩ := answered
  rw [wants, same]

end WalkPlan

end DocGraph
