import DocGraph.IgnoreRule
import DocGraph.Proofs.Text.Occurrence

/-!
# What the kinds of rules name

A rule can be of more than one kind, and the first one that fits decides. A bare name without
wildcards names the paths that it is a part of. A name with a slash behind it does the same, and it
does so whether or not it has wildcards: it is a directory before it is a glob. So a star in it
stands for itself, unless it comes first with a dot behind it, for then the rule also names the
paths that end like the rest of it.
-/

set_option autoImplicit false

namespace DocGraph.IgnoreRules

variable {rule name path : List Char}

/-! ## Slashes -/

/-- Backslashes are turned piece by piece. -/
theorem forwardSlashes_append (first second : List Char) :
    forwardSlashes (first ++ second) = forwardSlashes first ++ forwardSlashes second :=
  List.map_append

/-- A text that has no slash when its backslashes are slashes has no backslash either. -/
theorem forwardSlashes_of_noSlash (noSlash : '/' ∉ forwardSlashes name) :
    forwardSlashes name = name := by
  refine List.map_congr_left (g := id) (fun c member => ?_) |>.trans name.map_id
  refine if_neg fun backslash => noSlash (List.mem_map.mpr ⟨c, member, ?_⟩)
  rw [if_pos backslash]

/-! ## Names -/

/-- A bare name without wildcards names the paths that it is a part of. -/
theorem ruleMatches_name (some_ : rule ≠ []) (noSlash : '/' ∉ rule)
    (plain : hasWildcard rule = false) :
    ruleMatches rule path = .ok (decide (rule ∈ path.splitOn '/')) := by
  have bare : (!rule.contains '/' && !hasWildcard rule) = true := by simp [noSlash, plain]
  unfold ruleMatches
  rw [if_neg (by simpa using some_)]
  by_cases same : path = rule
  · rw [if_pos same, same, List.splitOn_eq_singleton noSlash, decide_eq_true List.mem_cons_self]
  · rw [if_neg same, if_pos bare, Text.splitOn_eq, List.contains_eq_mem]

/-! ## Directories -/

/-- A rule for a directory names the directory, what is below it, and, if it has no other slashes,
the paths that the directory is a part of. -/
theorem matchesDirectory_iff (ends : name.getLast? ≠ some '/') :
    matchesDirectory (name ++ ['/']) path = true ↔
      name ++ ['/'] <+: path ∨ path = name ∨ ('/' ∉ name ∧ name ∈ path.splitOn '/') := by
  have bare : ((name ++ ['/']).reverse.dropWhile (· = '/')).reverse = name := by
    rw [List.reverse_append, List.reverse_singleton, List.singleton_append,
      List.dropWhile_cons_of_pos (by decide)]
    cases turned : name.reverse with
    | nil => rw [List.reverse_eq_nil_iff.mp turned]; rfl
    | cons c rest =>
      have last : name.getLast? = some c := by rw [← List.head?_reverse, turned]; rfl
      have other : ¬c = '/' := fun slash => ends (slash ▸ last)
      rw [List.dropWhile_cons_of_neg (by simpa using other), ← turned, List.reverse_reverse]
  unfold matchesDirectory
  rw [bare, Text.splitOn_eq]
  simp [or_assoc]

/-- What a directory without slashes of its own is a part of, its rule names. -/
theorem matchesDirectory_eq (noSlash : '/' ∉ name) :
    matchesDirectory (name ++ ['/']) path = decide (name ∈ path.splitOn '/') := by
  have ends : name.getLast? ≠ some '/' := fun last => noSlash (List.mem_of_getLast? last)
  rw [Bool.eq_iff_iff, matchesDirectory_iff ends, decide_eq_true_iff]
  constructor
  · rintro (⟨rest, rfl⟩ | rfl | ⟨-, part⟩)
    · rw [List.append_assoc, List.singleton_append,
        List.splitOn_append_cons_self_of_not_mem noSlash]
      exact List.mem_cons_self
    · rw [List.splitOn_eq_singleton noSlash]
      exact List.mem_cons_self
    · exact part
  · exact fun part => Or.inr (Or.inr ⟨noSlash, part⟩)

/-- The rule for a directory has an ending if a star, a dot and more are the name of it. -/
theorem matchesEnding_directory :
    matchesEnding (name ++ ['/']) path = true ↔
      ['*', '.'] <+: name ∧ name.tail ++ ['/'] <:+ path := by
  unfold matchesEnding
  rw [Bool.and_eq_true, List.isPrefixOf_iff_prefix, List.isSuffixOf_iff_suffix]
  match name with
  | [] => simp
  | [c] => simp
  | c :: d :: rest => simp

/-- A directory is tried before a glob, whatever its name. -/
theorem ruleMatches_directory (noSlash : '/' ∉ name) :
    ruleMatches (name ++ ['/']) path =
      .ok (matchesEnding (name ++ ['/']) path || decide (name ∈ path.splitOn '/')) := by
  unfold ruleMatches
  split
  next empty => simp at empty
  split
  next same =>
    have part : name ∈ path.splitOn '/' := by
      rw [same, List.splitOn_append_cons_self_of_not_mem noSlash]
      exact List.mem_cons_self
    rw [decide_eq_true part, Bool.or_true]
  split
  next bare => simp at bare
  split
  next ending => rw [ending, Bool.true_or]
  next noEnding =>
    rw [if_pos (by simp), matchesDirectory_eq noSlash, Bool.eq_false_of_not_eq_true noEnding,
      Bool.false_or]

/-! ## Whole paths -/

/-- Of a single rule, whether any matches is whether it does. -/
theorem anyMatches_singleton (rule : String) :
    anyMatches path [rule] = ruleMatches (forwardSlashes rule.toList) path := by
  unfold anyMatches
  cases ruleMatches (forwardSlashes rule.toList) path with
  | error e => rfl
  | ok b => cases b <;> rfl

/-- The paths of the root are not ignored, and the rules decide on all others. -/
theorem ignores_eq (rules : IgnoreRules) (path : String) :
    rules.ignores path =
      if forwardSlashes path.toList ∈ [[], ['.']] then .ok false
      else rules.anyMatches (forwardSlashes path.toList) := by
  unfold ignores
  simp

/-- A path with a part before its last one is not one of the root. -/
theorem not_root_of_mem (part : name ∈ (path.splitOn '/').dropLast) : path ∉ [[], ['.']] := by
  rintro root
  rcases List.mem_pair.mp root with rfl | rfl <;> cases part

/-- A rule for a directory whose name has no slash, in either spelling, says of every path whether
it is ignored. Whatever wildcards the name has, they are read as they stand: ignored are the paths
that the name is a part of, and besides those, if the name starts with a star and a dot, the ones
that end with the rest of it and a slash. So everything below a directory of just this name is
ignored, at any depth. -/
theorem ignores_directory (name path : String) (noSlash : '/' ∉ forwardSlashes name.toList) :
    ∃ ignored, ignores [name ++ "/"] path = .ok ignored ∧
      (ignored = true ↔ forwardSlashes path.toList ∉ [[], ['.']] ∧
        (name.toList ∈ (forwardSlashes path.toList).splitOn '/' ∨
          ['*', '.'] <+: name.toList ∧ name.toList.tail ++ ['/'] <:+ forwardSlashes path.toList)) ∧
      (name.toList ∈ ((forwardSlashes path.toList).splitOn '/').dropLast → ignored = true) := by
  have same := forwardSlashes_of_noSlash noSlash
  have spelled : forwardSlashes (name ++ "/").toList = name.toList ++ ['/'] := by
    rw [String.toList_append, forwardSlashes_append, same]
    rfl
  rw [same] at noSlash
  rw [ignores_eq, anyMatches_singleton, spelled, ruleMatches_directory noSlash]
  by_cases root : forwardSlashes path.toList ∈ [[], ['.']]
  · rw [if_pos root]
    exact ⟨false, rfl, by simp [root], fun part => absurd root (not_root_of_mem part)⟩
  · rw [if_neg root]
    refine ⟨_, rfl, ?_, fun part => ?_⟩
    · rw [Bool.or_eq_true, matchesEnding_directory, decide_eq_true_iff, or_comm]
      exact (and_iff_right root).symm
    · rw [decide_eq_true (List.mem_of_mem_dropLast part), Bool.or_true]

/-- Below a directory with the name that the rule spells, everything is ignored. -/
theorem ignores_directory_dist :
    '/' ∉ forwardSlashes "dist".toList ∧ ignores ["dist" ++ "/"] "a/dist/x.js" = .ok true := by
  have noSlash : '/' ∉ forwardSlashes "dist".toList := by decide
  obtain ⟨ignored, answer, -, inside⟩ := ignores_directory "dist" "a/dist/x.js" noSlash
  rw [inside (by decide)] at answer
  exact ⟨noSlash, answer⟩

/-- What is below a directory whose name is only matched need not be ignored: the glob in front of the
slash matches the first name of a path, but the rule does not spell it. -/
theorem not_ignores_matched_directory :
    ¬∀ (glob path : String) (part : List Char), '/' ∉ glob.toList →
      glob.toList.head? ∉ [some '!', some '#'] → part ∈ (path.toList.splitOn '/').dropLast →
        Glob.matches? glob (String.ofList part) = .ok true →
          ignores [glob ++ "/"] path = .ok true := by
  intro claimed
  have ignored := claimed "build*" "build1/x.go" "build1".toList (by decide) (by decide)
    (by decide) (by cbv)
  have kept : ignores ["build*" ++ "/"] "build1/x.go" = .ok false := by decide
  rw [kept] at ignored
  cases ignored

end DocGraph.IgnoreRules
