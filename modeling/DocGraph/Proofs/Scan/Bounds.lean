import DocGraph.Proofs.Scan.Returned
import DocGraph.Proofs.Settings

/-!
# Options within their bounds

The size limit, the number of workers and the number of failures of a scan must not be below zero, and
an option that is given is checked for that. What an option falls back on is not, so a setting below
zero gets into the options: `read_bounded` says that this is the only way. Such a number of workers is
not enough to scan with, and such a size limit is one that no file keeps, while a limit of zero is none.
-/

set_option autoImplicit false

namespace DocGraph

/-! ## Reading fields -/

/-- Two checks succeed together if each of them does. -/
theorem Checked.ap_eq_ok_iff {α β : Type} {f : Checked (α → β)} {x : Checked α} {y : β} :
    Checked.ap f x = .ok y ↔ ∃ g a, f = .ok g ∧ x = .ok a ∧ g a = y := by
  cases f with
  | error issues => cases x <;> simp [Checked.ap]
  | ok g => cases x <;> simp [Checked.ap]

namespace OptionField

variable {fields : List (String × Value)} {name : String}

/-- A count that is read is not below zero. -/
theorem count_nonneg {value : Value} {n : Int} (h : count value = .ok n) : 0 ≤ n := by
  unfold count at h
  split at h
  · split at h
    · cases h
    next above =>
      cases h
      exact not_lt.mp above
  · cases h

/-- A count that is given is not below zero, and one that is not is what it falls back on. -/
theorem read_count_cases {fallback : Except SettingError Int} {n : Int}
    (h : read fields name fallback count = .ok (.ok n)) :
    (∃ value, fields.lookup name = some value) ∧ 0 ≤ n ∨
      fields.lookup name = none ∧ fallback = .ok n := by
  unfold read at h
  split at h
  next value given =>
    refine Or.inl ⟨⟨value, given⟩, ?_⟩
    cases counted : count value with
    | error issues =>
      rw [counted] at h
      cases h
    | ok m =>
      rw [counted] at h
      cases h
      exact count_nonneg counted
  next missing =>
    obtain ⟨m, falls, same⟩ := map_eq_ok_iff.mp h
    cases same
    exact Or.inr ⟨missing, falls⟩

/-- If no field is unknown, the options stay what they are. -/
theorem noOthers_eq_ok {α : Type} {known : List String} {keep : α → α}
    (h : noOthers fields known = .ok keep) : keep = id := by
  unfold noOthers at h
  split at h
  · exact (Except.ok.inj h).symm
  · cases h

end OptionField

namespace ScanOptions

variable {sources : SettingSources} {fields : List (String × Value)} {o : ScanOptions}

/-- The numbers among the options are what is read under their names. -/
theorem counts_of_check (h : check sources fields = .ok (.ok o)) :
    OptionField.read fields "max_file_size" sources.maxFileSize OptionField.count =
        .ok (.ok o.maxFileSize) ∧
      OptionField.read fields "workers" sources.workers OptionField.count = .ok (.ok o.workers) ∧
      OptionField.read fields "max_errors" (.ok 0) OptionField.count = .ok (.ok o.maxErrors) := by
  unfold check at h
  simp only [bind_eq_ok_iff, Checked.ap_eq_ok_iff, pure, Except.pure, Except.ok.injEq] at h
  obtain ⟨_, -, _, -, _, size, _, -, _, -, _, -, _, -, _, workers, _, -, _, errors, _, -, _, -,
    _, keep, made, kept, same⟩ := h
  obtain rfl := OptionField.noOthers_eq_ok kept
  obtain ⟨_, _, rfl, made, rfl⟩ := made
  subst same
  -- The options are put together field by field, the last one outermost.
  obtain ⟨_, _, ⟨_, _, ⟨_, _, ⟨_, _, ⟨_, _, ⟨_, _, made, rfl, rfl⟩, rfl, rfl⟩, rfl, rfl⟩, rfl, rfl⟩,
    rfl, rfl⟩, rfl, rfl⟩ := made
  obtain ⟨_, _, ⟨_, _, ⟨_, _, ⟨_, _, ⟨_, _, ⟨_, _, rfl, rfl, rfl⟩, rfl, rfl⟩, rfl, rfl⟩, rfl, rfl⟩,
    rfl, rfl⟩, rfl, rfl⟩ := made
  exact ⟨size, workers, errors⟩

/-- Options that are read were checked. -/
theorem check_of_read (h : read sources fields = .ok o) : check sources fields = .ok (.ok o) := by
  unfold read at h
  split at h
  · cases h
  · cases h
  next options checked =>
    cases h
    exact checked

/-- A number of an option with a setting is below zero exactly if the option is not given and the
setting is. -/
theorem count_lt_zero_iff {name variable_ key : String} {fallback n : Int} (nonneg : 0 ≤ fallback)
    (h : OptionField.read fields name
      (sources.setting variable_ key wholeNumber numberOf fallback) OptionField.count =
        .ok (.ok n)) :
    n < 0 ↔ fields.lookup name = none ∧ sources.SetsBelowZero variable_ key := by
  rcases OptionField.read_count_cases h with ⟨⟨value, given⟩, above⟩ | ⟨missing, set_⟩
  · refine iff_of_false (not_lt.mpr above) ?_
    rintro ⟨missing, -⟩
    cases given.symm.trans missing
  · rw [sources.setting_lt_zero_iff nonneg set_]
    exact (and_iff_right missing).symm

/-! ## What options out of bounds do -/

/-- There is a worker at least if the number that is asked for is not below zero. -/
theorem one_le_workerCount_iff (o : ScanOptions) (processors : Nat) :
    1 ≤ o.workerCount processors ↔ 0 ≤ o.workers := by
  unfold workerCount
  split
  next open_ =>
    rw [open_]
    omega
  next set_ => omega

end ScanOptions

namespace Site

variable {site : Site} {registry : Registry} {path : Path} {o : ScanOptions} {plan : WalkPlan}

/-- With a size limit below zero no file is kept. -/
theorem not_kept_of_maxFileSize (below : o.maxFileSize < 0) (record : FileRecord) :
    .kept record ∉ site.inspect (o.criteria registry) path := by
  intro kept
  obtain ⟨file, -, admitted, -⟩ := kept_mem_inspect_iff.mp kept
  have limit : (o.criteria registry).maxFileSize = o.maxFileSize := rfl
  rw [admits_iff, limit] at admitted
  omega

/-- Resolving the root needs no workers. -/
theorem root_ne_noWorkers : site.root path ≠ .error .noWorkers := by
  unfold Site.root
  split <;> simp

/-- Checking the root needs no workers. -/
theorem checkRoot_ne_noWorkers : site.checkRoot path ≠ .error .noWorkers := by
  unfold checkRoot
  split <;> simp

/-- Making a plan needs no workers. -/
theorem plan_ne_noWorkers : site.plan path o ≠ .error .noWorkers := by
  intro h
  obtain ⟨name, -, failed⟩ := exists_file_of_plan_error h
  unfold rulesOfFile at failed
  split at failed <;> cases failed

/-- A scan that has a plan does not fail for want of workers. -/
theorem scanPlanned_ne_noWorkers : site.scanPlanned registry plan o ≠ .error .noWorkers := by
  have outcome : ∀ s : ScanState, s.outcome ≠ .error .noWorkers := by
    intro s
    unfold ScanState.outcome
    split <;> simp
  unfold scanPlanned
  dsimp only
  split
  · unfold Walk.scanWithWorkers
    dsimp only
    split
    · simp
    · exact outcome _
  · unfold Walk.scan
    dsimp only
    split
    · simp
    · exact outcome _

/-- A scan that gets as far as its plan fails for want of workers exactly if it is to have some and
their number is below zero. -/
theorem scan_eq_noWorkers_iff :
    site.scan registry path o = .error .noWorkers ↔
      o.concurrent = true ∧ o.workers < 0 ∧ ∃ plan, site.Reaches path o plan := by
  have positive := o.one_le_workerCount_iff site.processors
  constructor
  · intro h
    simp only [Site.scan, bind_eq_error_iff] at h
    rcases h with failed | ⟨root, resolved, failed | ⟨_, there, failed | ⟨plan, planned, h⟩⟩⟩
    · exact absurd failed root_ne_noWorkers
    · exact absurd failed checkRoot_ne_noWorkers
    · exact absurd failed plan_ne_noWorkers
    · split at h
      next nobody =>
        obtain ⟨several, less⟩ := Bool.and_eq_true_iff.mp nobody
        have less := of_decide_eq_true less
        obtain rfl := root_of_plan planned
        exact ⟨several, by omega, plan, resolved, there, planned⟩
      · exact absurd h scanPlanned_ne_noWorkers
  · rintro ⟨several, below, plan, reaches⟩
    exact scan_of_noWorkers reaches several (by omega)

/-- With a size limit below zero a scan that returns has found nothing. -/
theorem files_eq_nil_of_maxFileSize (below : o.maxFileSize < 0) {result : ScanResult}
    (h : site.scan registry path o = .ok result) : result.files = [] := by
  obtain ⟨plan, -, alike⟩ := found_of_scan h
  refine List.eq_nil_iff_forall_not_mem.mpr fun record member => ?_
  obtain ⟨seen, -, kept⟩ := Walk.mem_files_iff.mp (alike.files.subset member)
  exact not_kept_of_maxFileSize below record kept

end Site

namespace ScanOptions

/-- A size limit that is not below zero passes over files for their size only if it is positive and
they are larger. -/
theorem admits_eq_false_iff (o : ScanOptions) (nonneg : 0 ≤ o.maxFileSize) (registry : Registry)
    (language : String) (size : Nat) :
    (o.criteria registry).admits language size = false ↔
      language = unknownLanguage ∨ 0 < o.maxFileSize ∧ o.maxFileSize < size := by
  have limit : (o.criteria registry).maxFileSize = o.maxFileSize := rfl
  rw [Bool.eq_false_iff, Ne, Site.admits_iff, limit]
  constructor
  · intro refused
    by_cases known : language = unknownLanguage
    · exact Or.inl known
    · have large : ¬(o.maxFileSize = 0 ∨ (size : Int) ≤ o.maxFileSize) :=
        fun fits => refused ⟨known, fits⟩
      exact Or.inr (by omega)
  · rintro (unknown | large) ⟨known, small⟩
    · exact known unknown
    · omega

/-- Options that can be read allow for no failures below zero. Their size limit and their number of
workers are below zero exactly if they are not given and the setting is below zero that they fall back
on. Otherwise there is at least one worker, no scan fails for want of workers, and files are passed over
for their size only if there is a limit and they are larger. With a number of workers below zero every
scan fails that gets as far as its plan, unless it goes without workers; and with a size limit below
zero no scan finds anything. -/
theorem read_bounded (sources : SettingSources) (fields : List (String × Value)) (o : ScanOptions)
    (made : read sources fields = .ok o) :
    0 ≤ o.maxErrors ∧
      (o.maxFileSize < 0 ↔ fields.lookup "max_file_size" = none ∧
        sources.SetsBelowZero "GRAPHFS_MAX_FILE_SIZE" "max-file-size") ∧
      (o.workers < 0 ↔ fields.lookup "workers" = none ∧
        sources.SetsBelowZero "GRAPHFS_WORKERS" "workers") ∧
      (∀ processors, 1 ≤ o.workerCount processors ↔ 0 ≤ o.workers) ∧
      (∀ (site : Site) (registry : Registry) (path : Path),
        site.scan registry path o = .error .noWorkers ↔
          o.concurrent = true ∧ o.workers < 0 ∧ ∃ plan, site.Reaches path o plan) ∧
      (0 ≤ o.maxFileSize → ∀ (registry : Registry) (language : String) (size : Nat),
        (o.criteria registry).admits language size = false ↔
          language = unknownLanguage ∨ 0 < o.maxFileSize ∧ o.maxFileSize < size) ∧
      (o.maxFileSize < 0 → ∀ (site : Site) (registry : Registry) (path : Path) (result : ScanResult),
        site.scan registry path o = .ok result → result.files = []) := by
  obtain ⟨size, workers, errors⟩ := counts_of_check (check_of_read made)
  refine ⟨?_, count_lt_zero_iff (by decide) size, count_lt_zero_iff (by decide) workers,
    o.one_le_workerCount_iff, fun site registry path => Site.scan_eq_noWorkers_iff,
    o.admits_eq_false_iff, fun below site registry path result => Site.files_eq_nil_of_maxFileSize below⟩
  rcases OptionField.read_count_cases errors with ⟨-, above⟩ | ⟨-, fixed⟩
  · exact above
  · exact (Except.ok.inj fixed).le

/-- The size limit is taken from the environment, and the number of workers is given. -/
theorem read_bounded_by_given :
    read { env := [("GRAPHFS_MAX_FILE_SIZE", " 2048 ")] } [("workers", .text "3")] =
        .ok { maxFileSize := 2048, workers := 3 } ∧
      ¬SettingSources.SetsBelowZero { env := [("GRAPHFS_MAX_FILE_SIZE", " 2048 ")] }
        "GRAPHFS_MAX_FILE_SIZE" "max-file-size" ∧
      (∀ (site : Site) (registry : Registry) (path : Path),
        site.scan registry path { maxFileSize := 2048, workers := 3 } ≠ .error .noWorkers) ∧
      ∀ registry, (ScanOptions.criteria { maxFileSize := 2048, workers := 3 } registry).admits
        "Python" 2049 = false := by
  have made : read { env := [("GRAPHFS_MAX_FILE_SIZE", " 2048 ")] } [("workers", .text "3")] =
      .ok { maxFileSize := 2048, workers := 3 } := by cbv
  obtain ⟨-, size, -, -, staffed, passed, -⟩ := read_bounded _ _ _ made
  refine ⟨made, ?_, ?_, ?_⟩
  · intro below
    exact absurd (size.mpr ⟨rfl, below⟩) (by decide)
  · intro site registry path failed
    exact absurd ((staffed site registry path).mp failed).2.1 (by decide)
  · intro registry
    exact (passed (by decide) registry "Python" 2049).mpr (Or.inr (by decide))

/-- Settings below zero become options below zero. There is not one worker, and not even a file of
which nothing is there is small enough. -/
theorem read_of_settings_below_zero :
    ∃ o, read { env := [("GRAPHFS_MAX_FILE_SIZE", "-5"), ("GRAPHFS_WORKERS", "-1")] } [] = .ok o ∧
      o.maxFileSize = -5 ∧ o.workers = -1 ∧ o.workerCount 4 = -1 ∧
      (o.criteria .standard).admits "Python" 0 = false := by
  have made : read { env := [("GRAPHFS_MAX_FILE_SIZE", "-5"), ("GRAPHFS_WORKERS", "-1")] } [] =
      .ok { maxFileSize := -5, workers := -1 } := by cbv
  exact ⟨_, made, rfl, rfl, rfl, by decide⟩

end ScanOptions

end DocGraph
