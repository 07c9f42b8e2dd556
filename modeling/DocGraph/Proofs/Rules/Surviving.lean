import DocGraph.Proofs.FileSystem.Locate
import DocGraph.Proofs.Rules.Compiling
import DocGraph.Proofs.Rules.Kinds
import DocGraph.Proofs.Scan.Concurrency
import DocGraph.Proofs.Scan.Verdict

/-!
# What broken globs do to a scan

A glob that is malformed matches nothing, and the rules decide as if it were not there. Only a set
with a reversed range makes a rule fail, and only for a path that no rule before it names. So what
is in an ignore file keeps no scan from returning unless some rule has a reversed range.
-/

set_option autoImplicit false

namespace DocGraph

namespace IgnoreRules

variable {rule path : List Char} {rules before after : IgnoreRules}

/-! ## One rule -/

/-- A rule, with forward slashes, is a glob with a reversed range, and the path neither is the rule
nor ends like it. -/
structure Spoils (rule path : List Char) : Prop where
  glob : IsGlob rule
  other : path ≠ rule
  noEnding : matchesEnding rule path = false
  reversed : Glob.Reversed (String.ofList rule)

/-- A rule that is read as a glob matches as one. -/
theorem ruleMatches_glob (glob : IsGlob rule) (other : path ≠ rule)
    (noEnding : matchesEnding rule path = false) :
    ruleMatches rule path = Glob.matches? (String.ofList rule) (String.ofList path) := by
  obtain ⟨wild, ends⟩ := glob
  have some_ : ¬rule.isEmpty = true := by
    rintro empty
    rw [List.isEmpty_iff.mp empty] at wild
    cases wild
  unfold ruleMatches
  rw [if_neg some_, if_neg other, wild, noEnding]
  simp [ends]

/-- A malformed glob names nothing. -/
theorem ruleMatches_of_malformed (glob : IsGlob rule) (other : path ≠ rule)
    (noEnding : matchesEnding rule path = false)
    (malformed : Glob.Malformed (String.ofList rule)) : ruleMatches rule path = .ok false := by
  rw [ruleMatches_glob glob other noEnding, Glob.matches?, Glob.compile_of_malformed malformed]
  rfl

/-- The rules that fail. -/
theorem ruleMatches_eq_error_iff (e : GlobError) :
    ruleMatches rule path = .error e ↔ Spoils rule path := by
  constructor
  · intro failed
    unfold ruleMatches at failed
    split_ifs at failed with empty same bare ending directory wild
    exact ⟨⟨wild, directory⟩, same, Bool.eq_false_of_not_eq_true ending,
      (Glob.matches_eq_error_iff _ e).mp failed⟩
  · rintro ⟨glob, other, noEnding, reversed⟩
    rw [ruleMatches_glob glob other noEnding]
    exact (Glob.matches_eq_error_iff _ e).mpr reversed

/-! ## Rules in their order -/

/-- Rules are tried until one of them names the path or fails. -/
theorem anyMatches_append (before after : IgnoreRules) :
    anyMatches path (before ++ after) =
      match anyMatches path before with
      | .ok false => anyMatches path after
      | decided => decided := by
  induction before with
  | nil => rfl
  | cons rule rest ih =>
    rw [List.cons_append, anyMatches, anyMatches, ih]
    cases ruleMatches (forwardSlashes rule.toList) path with
    | error e => rfl
    | ok b => cases b <;> rfl

/-- Rules none of which names a path do not name it. -/
theorem anyMatches_of_silent
    (silent : ∀ rule ∈ rules, ruleMatches (forwardSlashes rule.toList) path = .ok false) :
    rules.anyMatches path = .ok false := by
  induction rules with
  | nil => rfl
  | cons rule rest ih =>
    rw [anyMatches, silent rule List.mem_cons_self]
    exact ih fun r member => silent r (List.mem_cons_of_mem _ member)

/-- One of the rules spoils a path, with forward slashes, that none before it names. -/
def Spoiled (rules : IgnoreRules) (path : List Char) : Prop :=
  ∃ before rule after, rules = before ++ rule :: after ∧
    (∀ earlier ∈ before, ruleMatches (forwardSlashes earlier.toList) path = .ok false) ∧
    Spoils (forwardSlashes rule.toList) path

/-- Rules fail for the paths that they spoil. -/
theorem anyMatches_eq_error_iff (e : GlobError) :
    rules.anyMatches path = .error e ↔ rules.Spoiled path := by
  constructor
  · intro failed
    induction rules with
    | nil => cases failed
    | cons rule rest ih =>
      rw [anyMatches] at failed
      cases answer : ruleMatches (forwardSlashes rule.toList) path with
      | error e' =>
        exact ⟨[], rule, rest, rfl, by simp, (ruleMatches_eq_error_iff e').mp answer⟩
      | ok b =>
        rw [answer] at failed
        cases b with
        | true => cases failed
        | false =>
          obtain ⟨before, spoiler, after, rfl, silent, spoils⟩ := ih failed
          exact ⟨rule :: before, spoiler, after, rfl, List.forall_mem_cons.mpr ⟨answer, silent⟩,
            spoils⟩
  · rintro ⟨before, spoiler, after, rfl, silent, spoils⟩
    rw [anyMatches_append, anyMatches_of_silent silent]
    dsimp only
    rw [anyMatches, (ruleMatches_eq_error_iff e).mpr spoils]

/-- The paths of the root are never spoiled. -/
theorem ignores_eq_error_iff (rules : IgnoreRules) (path : String) (e : GlobError) :
    rules.ignores path = .error e ↔
      forwardSlashes path.toList ∉ [[], ['.']] ∧ rules.Spoiled (forwardSlashes path.toList) := by
  rw [ignores_eq]
  split
  next root => simp [root]
  next notRoot => rw [and_iff_right notRoot, anyMatches_eq_error_iff]

/-- A rule that names nothing can be left out. -/
theorem ignores_without {rule path : String}
    (silent : ruleMatches (forwardSlashes rule.toList) (forwardSlashes path.toList) = .ok false) :
    ignores (before ++ rule :: after) path = ignores (before ++ after) path := by
  have alone : ∀ path', ruleMatches (forwardSlashes rule.toList) path' = .ok false →
      anyMatches path' (rule :: after) = anyMatches path' after := by
    intro path' silent
    rw [anyMatches, silent]
  rw [ignores_eq, ignores_eq, anyMatches_append, anyMatches_append, alone _ silent]

end IgnoreRules

/-! ## A scan -/

namespace Site

variable {site : Site} {registry : Registry} {reader : TripleReader} {start path root : Path}
  {plan : WalkPlan}

/-- Whatever is in an ignore file, there are rules for it, if only its name can be one. -/
theorem rulesOfFile_ok (site : Site) {file : Path} (named : file.hasNull = false) :
    ∃ rules, site.rulesOfFile file = .ok rules := by
  unfold rulesOfFile
  split
  · exact ⟨_, rfl⟩
  next refused => exact absurd refused (site.files.read_ne_nullCharacter named)
  · exact ⟨_, rfl⟩

/-- Whatever is in the ignore files, there is a plan. -/
theorem plan_ok {o : ScanOptions}
    (named : ∀ name ∈ o.ignoreFiles, (root.join (Path.ofString name)).hasNull = false) :
    ∃ rules, site.plan root o = .ok ⟨root, rules, o.includePatterns⟩ := by
  cases planned : site.plan root o with
  | error e =>
    obtain ⟨name, member, fails⟩ := exists_file_of_plan_error planned
    obtain ⟨rules, read⟩ := site.rulesOfFile_ok (named name member)
    cases fails.symm.trans read
  | ok plan =>
    obtain ⟨rules, rfl⟩ := exists_of_plan planned
    exact ⟨rules, rfl⟩

/-- A scan whose globs can be read ends as its options and the number of its failures decide. -/
theorem ends_of_readable {o : ScanOptions} (registry : Registry)
    (reaches : site.Reaches path o plan) (readable : plan.Readable)
    (able : o.concurrent = false ∨ 0 < o.workerCount site.processors) :
    Ends (site.scan registry path o)
      (o.policy.ending ((site.walkOf o plan).failures (site.lookOf registry o))) := by
  have whole := readable.walk_broken site o.followLinks
  rw [reaches.scan_eq registry able, scanPlanned]
  cases mode : o.concurrent with
  | false => exact Walk.ends_of_scan whole o.policy (site.lookOf registry o)
  | true =>
    have several : 0 < (o.workerCount site.processors).toNat := by
      rw [mode] at able
      have := able.resolve_left (by simp)
      omega
    exact Walk.scanWithWorkers_ends whole o.policy (site.lookOf registry o) several

/-- A build that fails in its scan fails as the scan does. -/
theorem scan_of_build {o : BuildOptions} {e : ScanError} (begun : site.root start = .ok path)
    (failed : (site.build registry reader start o).result = .error (.scan e)) :
    site.scan registry path o.scan = .error e := by
  unfold build at failed
  rw [begun] at failed
  change (site.buildFrom registry reader path o).result = _ at failed
  cases scanned : site.scan registry path o.scan with
  | error e' =>
    rw [buildFrom, scanned] at failed
    cases failed
    rfl
  | ok scan =>
    rw [buildFrom_result reader o scanned] at failed
    split at failed
    · cases failed
    next g made =>
      rcases g.finish_result o.validate with done | invalid
      · rw [done] at failed
        cases failed
      · rw [invalid] at failed
        cases failed

end Site

section

open IgnoreRules

/-- What globs that are broken can do.

The rules say of every path whether it is ignored, unless one of them is a glob with a reversed
range, none before it names the path, and the path neither is the rule nor ends like it. Such a glob
has an opening bracket and, behind it, two characters in the wrong order with a dash between them. A
glob that is malformed in another way makes no difference to any path that neither is the rule nor
ends like it.

So, whatever is in the ignore files, a scan has its rules, and if there is no reversed range in them
and in the globs for what is to be included, then it is not broken off: it ends as its options and
the number of its failures decide, and a build fails in it only if it was given up. -/
theorem only_reversed_ranges_fail (rules after : IgnoreRules) (site : Site) (registry : Registry)
    (reader : TripleReader) :
    (∀ (path : String) (e : GlobError), rules.ignores path = .error e ↔
      forwardSlashes path.toList ∉ [[], ['.']] ∧ rules.Spoiled (forwardSlashes path.toList)) ∧
    (∀ rule path, Spoils rule path → SpellsReversed rule) ∧
    (∀ rule path : String,
      IsGlob (forwardSlashes rule.toList) →
      Glob.Malformed (String.ofList (forwardSlashes rule.toList)) →
      forwardSlashes path.toList ≠ forwardSlashes rule.toList →
      matchesEnding (forwardSlashes rule.toList) (forwardSlashes path.toList) = false →
      ignores (rules ++ rule :: after) path = ignores (rules ++ after) path) ∧
    ∀ (start path root : Path) (o : BuildOptions),
      site.root start = .ok path → site.root path = .ok root → site.checkRoot root = .ok () →
      (∀ name ∈ o.scan.ignoreFiles, (root.join (Path.ofString name)).hasNull = false) →
      (o.scan.concurrent = false ∨ 0 < o.scan.workerCount site.processors) →
      ∃ plan, site.Reaches path o.scan plan ∧
        ((∀ rule ∈ plan.rules, IsGlob (forwardSlashes rule.toList) →
            ¬Glob.Reversed (String.ofList (forwardSlashes rule.toList))) →
          (∀ pattern ∈ o.scan.includePatterns, ¬Glob.Reversed pattern) →
          Ends (site.scan registry path o.scan) (o.scan.policy.ending
            ((site.walkOf o.scan plan).failures (site.lookOf registry o.scan))) ∧
          ∀ e, (site.build registry reader start o).result = .error (.scan e) →
            ∃ reason found, e = .aborted reason found) := by
  refine ⟨ignores_eq_error_iff rules, ?_, ?_, ?_⟩
  · intro rule path spoils
    have spelled := spoils.reversed.spells
    rwa [String.toList_ofList] at spelled
  · intro rule path glob malformed other noEnding
    exact ignores_without (ruleMatches_of_malformed glob other noEnding malformed)
  · intro start path root o begun settled there named able
    obtain ⟨found, planned⟩ := Site.plan_ok named
    have reaches : site.Reaches path o.scan ⟨root, found, o.scan.includePatterns⟩ :=
      ⟨settled, there, planned⟩
    refine ⟨_, reaches, fun sound patterns => ?_⟩
    have readable : WalkPlan.Readable ⟨root, found, o.scan.includePatterns⟩ :=
      ⟨fun rule member glob => Glob.compiles_iff.mpr (sound rule member glob),
        fun pattern member => Glob.compiles_iff.mpr (patterns pattern member)⟩
    have ends := Site.ends_of_readable registry reaches readable able
    refine ⟨ends, fun e failed => ?_⟩
    rw [Site.scan_of_build begun failed] at ends
    generalize AbortPolicy.ending _ _ = ending at ends
    cases ends with
    | strict file failure found named => exact ⟨_, found, rfl⟩
    | tooManyErrors limit found => exact ⟨_, found, rfl⟩

end

/-- A directory with an ignore file, which holds only an opening bracket, and another file. -/
def bracketed : Site where
  files := ⟨[("src", .directory [("rules", .file [91] 0), ("a.py", .file [] 0)])]⟩

/-- Options for a build in it that read the ignore file. -/
def bracketedOptions : BuildOptions where
  scan := { ignoreFiles := ["rules"], useDefaults := false, workers := 2 }

/-- The bracket is the only rule. -/
theorem bracketed_plan :
    bracketed.plan ⟨1, ["src"]⟩ bracketedOptions.scan = .ok ⟨⟨1, ["src"]⟩, ["["], []⟩ := by
  have file : (Path.mk 1 ["src"]).join (Path.ofString "rules") = ⟨1, ["src", "rules"]⟩ := by
    decide +kernel
  have located : bracketed.files.locate ⟨1, ["src", "rules"]⟩ = .ok (.file [91] 0) := by cbv
  have read : bracketed.files.read ⟨1, ["src", "rules"]⟩ = .ok [91] := by
    rw [FileSystem.read, located]
  have rule : IgnoreRules.ofFile (Text.ofFile [91]) = ["["] := by cbv
  have found : bracketed.rulesOfFile ⟨1, ["src", "rules"]⟩ = .ok ["["] := by
    rw [Site.rulesOfFile, read]
    exact congrArg Except.ok rule
  unfold Site.plan Site.rules Site.rulesOfFiles
  simp only [bracketedOptions, List.mapM_cons, List.mapM_nil, file, found]
  rfl

/-- The bracket is not closed, so no path matches it, and the scan returns. -/
theorem only_reversed_ranges_fail_in_bracketed :
    Glob.Malformed "[" ∧
      ∃ scan, bracketed.scan .standard ⟨1, ["src"]⟩ bracketedOptions.scan = .ok scan := by
  have malformed : Glob.Malformed "[" := ⟨['['], by decide, by unfold Unreadable; cbv⟩
  have root : bracketed.root ⟨1, ["src"]⟩ = .ok ⟨1, ["src"]⟩ := by cbv
  have there : bracketed.checkRoot ⟨1, ["src"]⟩ = .ok () := by cbv
  have named : ∀ name ∈ bracketedOptions.scan.ignoreFiles,
      ((Path.mk 1 ["src"]).join (Path.ofString name)).hasNull = false := by
    intro name member
    obtain rfl := List.mem_singleton.mp member
    decide +kernel
  have able : 0 < bracketedOptions.scan.workerCount bracketed.processors := by decide +kernel
  have sound : ¬Glob.Reversed (String.ofList (IgnoreRules.forwardSlashes "[".toList)) :=
    fun reversed => reversed.wellFormed malformed
  have begun : bracketed.Reaches ⟨1, ["src"]⟩ bracketedOptions.scan ⟨⟨1, ["src"]⟩, ["["], []⟩ :=
    ⟨root, there, bracketed_plan⟩
  obtain ⟨-, -, -, survives⟩ :=
    only_reversed_ranges_fail ["["] [] bracketed .standard bracketed.files.tripleReader
  obtain ⟨plan, reaches, ends⟩ :=
    survives ⟨1, ["src"]⟩ ⟨1, ["src"]⟩ ⟨1, ["src"]⟩ bracketedOptions root root there named (Or.inr able)
  obtain rfl := begun.unique reaches
  obtain ⟨returned, -⟩ := ends (fun rule member _ => List.mem_singleton.mp member ▸ sound)
    fun pattern member => by cases member
  have unlimited : ∀ failures, bracketedOptions.scan.policy.ending failures = .returned := by
    intro failures
    simp [AbortPolicy.ending, ScanOptions.policy, bracketedOptions]
  rw [unlimited] at returned
  generalize bracketed.scan .standard ⟨1, ["src"]⟩ bracketedOptions.scan = outcome at returned ⊢
  cases returned with
  | returned scan => exact ⟨malformed, scan, rfl⟩

/-- A reversed range in an ignore file makes its rules fail. -/
theorem not_ignores_answers :
    ¬∀ content path : String, ∃ ignored, (IgnoreRules.ofFile content).ignores path = .ok ignored := by
  intro claimed
  obtain ⟨ignored, answer⟩ := claimed "[z-a]" "x"
  have failed : (IgnoreRules.ofFile "[z-a]").ignores "x" = .error .reversedRange := by cbv
  cases failed.symm.trans answer

end DocGraph
