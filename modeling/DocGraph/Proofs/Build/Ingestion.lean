import DocGraph.Build
import DocGraph.Proofs.Graph.Linking

/-!
# Files one by one

What becomes of a file when it is taken into a graph depends on the file only, and not on the files
before it. Its rows are stored and its module is added, or it is refused, or no graph comes of it.
`ingestAll_eq` takes the reading of all files apart from what is done with them: a graph comes of
files if it comes of each of them, and then it is put together from what they give.

A file that is refused leaves its entry on the list of errors, and the list of errors has no say in
anything else. So the graph is the same without the file, but for that entry.
-/

set_option autoImplicit false

namespace DocGraph

/-- Whether a row can be stored. -/
def Row.isComplete (row : Row) : Bool :=
  !(row.subject.isEmpty || row.predicate.isEmpty)

/-! ## Storing rows -/

namespace Store

/-- The store with a row. -/
def insert (s : Store) (row : Row) : Store :=
  if row ∈ s.rows then s else ⟨s.rows ++ [row]⟩

/-- The store with several rows. -/
def insertAll (s : Store) (rows : List Row) : Store :=
  rows.foldl insert s

/-- A row is inserted if it is complete, and refused otherwise. -/
theorem add_eq (s : Store) (row : Row) :
    s.add row = if row.isComplete then .ok (s.insert row) else .error .incompleteRow := by
  unfold add insert Row.isComplete
  cases row.subject.isEmpty || row.predicate.isEmpty with
  | true => rfl
  | false =>
    by_cases there : row ∈ s.rows
    · simp [there]
    · simp [there]

/-- Rows that can be stored all are. -/
theorem addAll_of_complete (s : Store) {rows : List Row} (complete : rows.all Row.isComplete = true) :
    s.addAll rows = .ok (s.insertAll rows) := by
  induction rows generalizing s with
  | nil => rfl
  | cons row rest ih =>
    obtain ⟨first, later⟩ := Bool.and_eq_true_iff.mp complete
    rw [addAll, add_eq, if_pos first]
    exact ih (s.insert row) later

/-- One row that cannot be stored is enough for a failure. -/
theorem addAll_of_incomplete (s : Store) {rows : List Row}
    (incomplete : rows.all Row.isComplete = false) :
    ∃ left, s.addAll rows = .error (.incompleteRow, left) := by
  induction rows generalizing s with
  | nil => cases incomplete
  | cons row rest ih =>
    rw [addAll, add_eq]
    cases first : row.isComplete with
    | false => exact ⟨s, rfl⟩
    | true =>
      rw [List.all_cons, first, Bool.true_and] at incomplete
      exact ih (s.insert row) incomplete

/-- The rows after an insertion are the old ones and the new one. -/
theorem mem_insert {s : Store} {row other : Row} :
    other ∈ (s.insert row).rows ↔ other ∈ s.rows ∨ other = row := by
  unfold insert
  by_cases there : row ∈ s.rows
  · rw [if_pos there]
    constructor
    · exact Or.inl
    · rintro (old | rfl)
      · exact old
      · exact there
  · rw [if_neg there, List.mem_append, List.mem_singleton]

/-- The rows afterwards are those before and the new ones. -/
theorem mem_insertAll {s : Store} {rows : List Row} {row : Row} :
    row ∈ (s.insertAll rows).rows ↔ row ∈ s.rows ∨ row ∈ rows := by
  induction rows generalizing s with
  | nil => simp [insertAll]
  | cons first rest ih =>
    have later : row ∈ ((s.insert first).insertAll rest).rows ↔
        row ∈ (s.insert first).rows ∨ row ∈ rest := ih
    rw [insertAll, List.foldl_cons, List.mem_cons, ← or_assoc, ← mem_insert]
    exact later

end Store

/-! ## What becomes of a file -/

/-- What becomes of a file that is taken in. -/
inductive Intake where
  /-- All its rows are stored, and the module that it describes is added, if there is one. -/
  | taken (rows : List Row) (described : Option Module)
  /-- It is passed over, and there is an entry on the list of errors. -/
  | refused (entry : CollectedError)
  /-- There is no graph. -/
  | halts (error : IngestError)
  deriving DecidableEq, Repr

namespace Intake

/-- The rows that are stored. -/
def rows : Intake → List Row
  | .taken rows _ => rows
  | _ => []

/-- The module that is added. -/
def described? : Intake → Option Module
  | .taken _ described => described
  | _ => none

/-- The entry on the list of errors. -/
def error? : Intake → Option CollectedError
  | .refused entry => some entry
  | _ => none

/-- Why there is no graph. -/
def halt? : Intake → Option IngestError
  | .halts error => some error
  | _ => none

/-- A file that describes a module is taken, with that module. -/
theorem eq_taken {i : Intake} {m : Module} (h : i.described? = some m) :
    i = .taken i.rows (some m) := by
  cases i with
  | taken rows described => exact congrArg (Intake.taken rows) h
  | refused entry => cases h
  | halts error => cases h

end Intake

/-- What becomes of a file in a tree below a root. -/
def TripleReader.intake (reader : TripleReader) (root path : Path) : Intake :=
  match reader path with
  | .ok triples =>
    let text := path.relativeText root
    let rows := triples.flatMap (Triple.rows text)
    if rows.all Row.isComplete then
      .taken rows ((moduleSubject triples).map fun subject => .ofTriples text subject triples)
    else .halts (.store .incompleteRow)
  | .error (.skipped failure line) =>
    .refused
      { file := path.toString, message := failure.message, line, cause := some failure.cause }
  | .error (.stalled line) => .halts (.stalled path line)

namespace TripleReader

variable {reader : TripleReader} {root path : Path} {m : Module}

/-- A module that a file describes is what its triples say about a subject. -/
theorem described_eq_some (h : (reader.intake root path).described? = some m) :
    ∃ triples subject, reader path = .ok triples ∧
      m = Module.ofTriples (path.relativeText root) subject triples := by
  unfold intake at h
  cases read : reader path with
  | error failure =>
    rw [read] at h
    cases failure with
    | skipped failure line => cases h
    | stalled line => cases h
  | ok triples =>
    rw [read] at h
    dsimp only at h
    split at h
    · obtain ⟨subject, -, rfl⟩ := Option.map_eq_some_iff.mp h
      exact ⟨triples, subject, rfl, rfl⟩
    · cases h

/-- A module that a file describes is known by the path of the file. -/
theorem path_of_described (h : m ∈ (reader.intake root path).described?) :
    m.path = path.relativeText root := by
  obtain ⟨triples, subject, -, rfl⟩ := described_eq_some h
  exact Graph.path_ofTriples _ _ _

end TripleReader

/-- What the first of several things gives comes first. -/
theorem filterMap_cons_toList {α β : Type} (f : α → Option β) (x : α) (xs : List α) :
    (x :: xs).filterMap f = (f x).toList ++ xs.filterMap f := by
  rw [List.filterMap_cons]
  cases f x with
  | none => rfl
  | some y => rfl

namespace Graph

/-- The same graph with other errors. -/
def withErrors (g : Graph) (errors : ErrorLog) : Graph :=
  { g with errors }

/-- The graph once a file was taken in, unless there is none. -/
def take (g : Graph) : Intake → Graph
  | .taken rows described =>
    let stored : Graph := { g with store := g.store.insertAll rows }
    described.elim stored stored.add
  | .refused entry => g.withErrors (g.errors ++ [entry])
  | .halts _ => g

variable {g : Graph} {reader : TripleReader} {root : Path}

/-- Taking in a file is finding out what becomes of it and doing that. -/
theorem ingest_eq (path : Path) :
    g.ingest reader root path =
      match (reader.intake root path).halt? with
      | some e => .error e
      | none => .ok (g.take (reader.intake root path)) := by
  unfold ingest TripleReader.intake
  cases reader path with
  | error failure =>
    cases failure with
    | skipped failure line => rfl
    | stalled line => rfl
  | ok triples =>
    dsimp only
    unfold addTriples
    cases complete : (triples.flatMap (Triple.rows (path.relativeText root))).all Row.isComplete with
    | true =>
      rw [g.store.addAll_of_complete complete]
      dsimp only
      unfold addModuleOf
      cases moduleSubject triples with
      | none => rfl
      | some subject => rfl
    | false =>
      obtain ⟨left, failed⟩ := g.store.addAll_of_incomplete complete
      rw [failed]
      rfl

/-- A graph comes of files if it comes of each of them, and then it is put together from what they
give. -/
theorem ingestAll_eq (paths : List Path) :
    ingestAll reader root g paths =
      match (paths.map (reader.intake root)).findSome? Intake.halt? with
      | some e => .error e
      | none => .ok ((paths.map (reader.intake root)).foldl take g) := by
  unfold ingestAll
  induction paths generalizing g with
  | nil => rfl
  | cons path rest ih =>
    rw [List.foldlM_cons, ingest_eq, List.map_cons, List.findSome?_cons, List.foldl_cons]
    cases (reader.intake root path).halt? with
    | some e => rfl
    | none => exact ih

/-! ## What a graph is put together from -/

/-- The rows after an intake are the old ones and those of the intake. -/
theorem mem_rows_take {i : Intake} {row : Row} :
    row ∈ (g.take i).store.rows ↔ row ∈ g.store.rows ∨ row ∈ i.rows := by
  cases i with
  | taken rows described =>
    have stored : (g.take (.taken rows described)).store = g.store.insertAll rows := by
      cases described with
      | none => rfl
      | some m => rfl
    rw [stored]
    exact Store.mem_insertAll
  | refused entry => exact (or_iff_left List.not_mem_nil).symm
  | halts error => exact (or_iff_left List.not_mem_nil).symm

/-- The rows are those from before and those of the files. -/
theorem mem_rows_foldl_take {intakes : List Intake} {row : Row} :
    row ∈ (intakes.foldl take g).store.rows ↔
      row ∈ g.store.rows ∨ ∃ i ∈ intakes, row ∈ i.rows := by
  induction intakes generalizing g with
  | nil => simp
  | cons i rest ih =>
    rw [List.foldl_cons, ih, mem_rows_take, List.exists_mem_cons_iff, or_assoc]

/-- An intake with a new path adds its module at the end. -/
theorem modules_take {i : Intake} (new : ∀ m ∈ i.described?, m.path ∉ g.modules.map Prod.fst) :
    (g.take i).modules = g.modules ++ i.described?.toList.map fun m => (m.path, m) := by
  cases i with
  | taken rows described =>
    cases described with
    | none => exact (List.append_nil _).symm
    | some m =>
      change g.modules.set m.path m = _
      rw [set_eq_alter, alter_of_not_mem _ (new m rfl)]
      rfl
  | refused entry => exact (List.append_nil _).symm
  | halts error => exact (List.append_nil _).symm

/-- The modules are those from before and those of the files, if they have different paths. -/
theorem modules_foldl_take {intakes : List Intake}
    (distinct : (g.modules.map Prod.fst ++
      (intakes.filterMap Intake.described?).map Module.path).Nodup) :
    (intakes.foldl take g).modules =
      g.modules ++ (intakes.filterMap Intake.described?).map fun m => (m.path, m) := by
  induction intakes generalizing g with
  | nil => exact (List.append_nil _).symm
  | cons i rest ih =>
    rw [filterMap_cons_toList, List.map_append, ← List.append_assoc] at distinct
    have new : ∀ m ∈ i.described?, m.path ∉ g.modules.map Prod.fst := by
      intro m described old
      have listed : m.path ∈ i.described?.toList.map Module.path :=
        List.mem_map_of_mem (Option.mem_toList.mpr described)
      have apart := (List.nodup_append.mp (List.nodup_append.mp distinct).1).2.2
      exact apart m.path old m.path listed rfl
    have here := modules_take new
    have keys : (g.take i).modules.map Prod.fst =
        g.modules.map Prod.fst ++ i.described?.toList.map Module.path := by
      rw [here, List.map_append, List.map_map]
      rfl
    rw [List.foldl_cons, ih (by rwa [keys]), here, filterMap_cons_toList, List.map_append,
      List.append_assoc]

/-! ## Errors have no say -/

/-- Whatever the errors are, a file does the same to the rest of the graph. -/
theorem take_withErrors (errors : ErrorLog) (i : Intake) :
    (g.withErrors errors).take i = (g.take i).withErrors (errors ++ i.error?.toList) := by
  cases i with
  | taken rows described =>
    have noEntry : errors ++ (Intake.taken rows described).error?.toList = errors :=
      List.append_nil errors
    rw [noEntry]
    cases described with
    | none => rfl
    | some m => rfl
  | refused entry => rfl
  | halts error =>
    have noEntry : errors ++ (Intake.halts error).error?.toList = errors := List.append_nil errors
    rw [noEntry]
    rfl

/-- Files that are refused can be left out. The graph is the same, but for their entries on the list
of errors. -/
theorem foldl_take_filter {paths : List Path} {keep : Path → Bool} (errors : ErrorLog)
    (refused : ∀ p ∈ paths, keep p = false → ∃ entry, reader.intake root p = .refused entry) :
    ((paths.filter keep).map (reader.intake root)).foldl take (g.withErrors errors) =
      ((paths.map (reader.intake root)).foldl take g).withErrors
        (errors ++ ((paths.filter keep).map (reader.intake root)).filterMap Intake.error?) := by
  induction paths generalizing g errors with
  | nil =>
    rw [List.filter_nil, List.map_nil, List.filterMap_nil, List.append_nil]
    rfl
  | cons path rest ih =>
    have later : ∀ p ∈ rest, keep p = false → ∃ entry, reader.intake root p = .refused entry :=
      fun p member => refused p (List.mem_cons_of_mem _ member)
    cases kept : keep path with
    | true =>
      rw [List.filter_cons, if_pos kept, List.map_cons, List.map_cons, List.foldl_cons,
        List.foldl_cons, take_withErrors, ih _ later, filterMap_cons_toList, List.append_assoc]
    | false =>
      -- The file would only add its entry, and the errors are replaced anyway.
      obtain ⟨entry, isRefused⟩ := refused path List.mem_cons_self kept
      have same : (g.take (reader.intake root path)).withErrors errors = g.withErrors errors := by
        rw [isRefused]
        rfl
      rw [List.filter_cons, kept, if_neg Bool.false_ne_true, List.map_cons, List.foldl_cons, ← same]
      exact ih errors later

/-- The entries on the list of errors are those from before and those of the files. -/
theorem errors_foldl_take (intakes : List Intake) :
    (intakes.foldl take g).errors = g.errors ++ intakes.filterMap Intake.error? := by
  induction intakes generalizing g with
  | nil => exact (List.append_nil _).symm
  | cons i rest ih =>
    have here : (g.take i).errors = g.errors ++ i.error?.toList :=
      congrArg Graph.errors (take_withErrors g.errors i)
    rw [List.foldl_cons, ih, here, List.append_assoc, filterMap_cons_toList]

/-- Linking a reference does not read the errors. -/
theorem linkOne_withErrors (errors : ErrorLog) (path reference : String) :
    (g.withErrors errors).linkOne path reference = (g.linkOne path reference).withErrors errors := by
  have same : resolve? (g.withErrors errors).modules reference = resolve? g.modules reference := rfl
  unfold linkOne
  rw [same]
  cases resolve? g.modules reference with
  | none => rfl
  | some target => rfl

/-- Linking and counting do not look at the errors. -/
theorem tally_link_withErrors (errors : ErrorLog) :
    (g.withErrors errors).link.tally = g.link.tally.withErrors errors := by
  have linked : (g.withErrors errors).link = g.link.withErrors errors :=
    List.foldl_hom (fun g : Graph => g.withErrors errors)
      fun _ edge => linkOne_withErrors errors edge.1 edge.2
  rw [linked]
  rfl

end Graph

end DocGraph
