import DocGraph.Proofs.Build.Isolation
import DocGraph.Proofs.Build.Rows
import DocGraph.Proofs.Scan.Returned

/-!
# What the store of a build holds

A build stores the rows of the files that can be read, in the order of the files, and every row
where it occurs first. The labels of blank nodes are qualified by the paths of the files, and paths
beneath one root differ, so no node gets rows of another one: `build_stores` says what the rows are
that have the label of a node as their subject.
-/

set_option autoImplicit false

namespace DocGraph

/-! ## First occurrences -/

section

variable {α : Type} [DecidableEq α] {first second xs : List α} {x : α}

/-- What has occurred before adds nothing. -/
theorem eraseDups_append_of_subset (h : second ⊆ first) :
    (first ++ second).eraseDups = first.eraseDups := by
  have nothing : second.removeAll first = [] := by
    rw [List.removeAll, List.filter_eq_nil_iff]
    intro a member
    simpa using h member
  rw [List.eraseDups_append, nothing]
  simp

/-- A value that is there already changes nothing. -/
theorem eraseDups_append_of_mem (h : x ∈ xs) : (xs ++ [x]).eraseDups = xs.eraseDups :=
  eraseDups_append_of_subset (by simpa using h)

/-- A new value goes to the end. -/
theorem eraseDups_append_of_not_mem (h : x ∉ xs) :
    (xs ++ [x]).eraseDups = xs.eraseDups ++ [x] := by
  rw [List.eraseDups_append]
  simp [h, List.removeAll, List.eraseDups_cons]

/-- Repetitions may be removed before or after a selection. -/
theorem filter_eraseDups (p : α → Bool) (xs : List α) :
    xs.eraseDups.filter p = (xs.filter p).eraseDups := by
  induction xs using List.reverseRecOn with
  | nil => rfl
  | append_singleton xs x ih =>
    have kept : x ∈ xs.filter p ↔ x ∈ xs ∧ p x = true := List.mem_filter
    rw [List.filter_append]
    by_cases good : p x = true
    · have only : [x].filter p = [x] := by simp [good]
      rw [only]
      by_cases old : x ∈ xs
      · rw [eraseDups_append_of_mem old, ih,
          eraseDups_append_of_mem (kept.mpr ⟨old, good⟩)]
      · rw [eraseDups_append_of_not_mem old, List.filter_append, ih, only,
          eraseDups_append_of_not_mem fun again => old (kept.mp again).1]
    · have nothing : [x].filter p = [] := by simp [good]
      rw [nothing, List.append_nil]
      by_cases old : x ∈ xs
      · rw [eraseDups_append_of_mem old, ih]
      · rw [eraseDups_append_of_not_mem old, List.filter_append, ih, nothing, List.append_nil]

/-- If only one element gives anything, then that is all there is, however often it occurs. -/
theorem eraseDups_flatMap {β : Type} {ys : List β} {y : β} (f : β → List α) (member : y ∈ ys)
    (others : ∀ z ∈ ys, z ≠ y → f z = []) : (ys.flatMap f).eraseDups = (f y).eraseDups := by
  induction ys with
  | nil => cases member
  | cons z rest ih =>
    have later : ∀ z ∈ rest, z ≠ y → f z = [] := fun z inside =>
      others z (List.mem_cons_of_mem _ inside)
    rw [List.flatMap_cons]
    by_cases here : z = y
    · rw [here]
      refine eraseDups_append_of_subset fun a inRest => ?_
      obtain ⟨z, inside, gives⟩ := List.mem_flatMap.mp inRest
      by_cases again : z = y
      · exact again ▸ gives
      · rw [later z inside again] at gives
        cases gives
    · rw [others z List.mem_cons_self here, List.nil_append]
      exact ih ((List.mem_cons.mp member).resolve_left fun same => here same.symm) later

end

/-! ## What is stored -/

namespace Store

/-- Rows are inserted one list after the other. -/
theorem insertAll_append (s : Store) (first second : List Row) :
    s.insertAll (first ++ second) = (s.insertAll first).insertAll second :=
  List.foldl_append

/-- Rows that are put into an empty store stay where they occur first. -/
theorem insertAll_rows (rows : List Row) : (empty.insertAll rows).rows = rows.eraseDups := by
  induction rows using List.reverseRecOn with
  | nil => rfl
  | append_singleton rows row ih =>
    rw [insertAll_append]
    change (insert (empty.insertAll rows) row).rows = _
    unfold insert
    rw [ih]
    by_cases old : row ∈ rows
    · rw [if_pos (List.mem_eraseDups.mpr old), ih,
        eraseDups_append_of_mem old]
    · rw [if_neg (mt List.mem_eraseDups.mp old), eraseDups_append_of_not_mem old]

end Store

/-- The rows of a file below a root, as far as it can be read. -/
def TripleReader.rowsOf (reader : TripleReader) (root path : Path) : List Row :=
  match reader path with
  | .ok triples => triples.flatMap (Triple.rows (path.relativeText root))
  | .error _ => []

/-- A file that does not halt the build brings the rows of its triples. -/
theorem TripleReader.rows_intake {reader : TripleReader} {root path : Path}
    (goes : (reader.intake root path).halt? = none) :
    (reader.intake root path).rows = reader.rowsOf root path := by
  unfold intake rowsOf at *
  cases read : reader path with
  | error failure =>
    cases failure with
    | skipped failure line => rfl
    | stalled line => rfl
  | ok triples =>
    rw [read] at goes
    dsimp only at goes ⊢
    split
    · rfl
    next incomplete =>
      rw [if_neg incomplete] at goes
      cases goes

namespace Graph

variable {g : Graph} {reader : TripleReader} {root : Path}

/-- An intake inserts its rows. -/
theorem store_take (i : Intake) : (g.take i).store = g.store.insertAll i.rows := by
  cases i with
  | taken rows described =>
    cases described with
    | none => rfl
    | some m => rfl
  | refused entry => rfl
  | halts error => rfl

/-- Intakes insert their rows in order. -/
theorem store_foldl_take (intakes : List Intake) :
    (intakes.foldl take g).store = g.store.insertAll (intakes.flatMap Intake.rows) := by
  induction intakes generalizing g with
  | nil => rfl
  | cons i rest ih =>
    rw [List.foldl_cons, ih, store_take, List.flatMap_cons, Store.insertAll_append]

/-- The store of the graph of files. -/
theorem rows_ofFiles {paths : List Path}
    (goes : (paths.map (reader.intake root)).findSome? Intake.halt? = none) :
    (ofFiles reader root paths).store.rows =
      (paths.flatMap (reader.rowsOf root)).eraseDups := by
  have all : (paths.map (reader.intake root)).flatMap Intake.rows =
      paths.flatMap (reader.rowsOf root) := by
    rw [List.flatMap_map]
    refine List.flatMap_congr fun p member => ?_
    have here := List.findSome?_eq_none_iff.mp goes _ (List.mem_map_of_mem member)
    exact TripleReader.rows_intake here
  change (Graph.link _).store.rows = _
  rw [link_keeps Graph.store (fun _ _ => rfl) (fun _ _ => rfl), store_foldl_take, all]
  exact Store.insertAll_rows _

/-- A graph that is checked stays what it is, whether it is valid or not. -/
theorem eq_of_finish {validate : Bool} {final : Graph}
    (h : (g.finish validate).result = .ok final ∨
      ∃ v, (g.finish validate).result = .error (.invalid final v)) : final = g := by
  rcases g.finish_result validate with done | invalid
  · rw [done] at h
    rcases h with returned | ⟨v, failed⟩
    · exact (Except.ok.inj returned).symm
    · cases failed
  · rw [invalid] at h
    rcases h with returned | ⟨v, failed⟩
    · cases returned
    · cases failed
      rfl

end Graph

/-- What a reader reads is read from the bytes of a file. -/
def TripleReader.Parses (reader : TripleReader) : Prop :=
  ∀ path triples, reader path = .ok triples → ∃ bytes, Block.parseBytes bytes = .ok triples

/-- Triples that are read from a file are parsed from bytes. -/
theorem FileSystem.tripleReader_parses (files : FileSystem) : files.tripleReader.Parses := by
  intro path triples h
  unfold FileSystem.tripleReader at h
  cases read : files.read path with
  | error fault => simp [read] at h
  | ok bytes =>
    simp only [read] at h
    exact ⟨bytes, mapError_eq_ok_iff.mp h⟩

/-- What is read from the bytes of a file can be printed. -/
theorem printable_of_parseBytes {bytes : List UInt8} {triples : List Triple}
    (h : Block.parseBytes bytes = .ok triples) : Block.Printable triples := by
  unfold Block.parseBytes Block.parseDocument at h
  obtain ⟨block, -, read⟩ := bind_eq_ok_iff.mp h
  cases block with
  | none =>
    cases read
    exact ⟨List.forall_mem_nil _, trivial, rfl⟩
  | some block => exact Block.printable_of_parse read

namespace Path

/-- What lies beneath a root has a text, seen from wherever. -/
theorem Beneath.relativeText_ne {p root : Path} (h : p.Beneath root) (rooted : root.slashes ≠ 0)
    (base : Path) : p.relativeText base ≠ "" := by
  obtain ⟨names, some_, valid, rfl⟩ := h
  unfold relativeText
  intro empty
  cases relative : (root.below names).relativeTo? base with
  | none =>
    rw [relative] at empty
    have slash := @head_toString (root.below names) rooted
    rw [Option.getD_none] at empty
    rw [empty] at slash
    cases slash
  | some rest =>
    obtain ⟨chain, rfl, same⟩ := relativeTo?_eq_some_iff.mp relative
    rw [relative, Option.getD_some, toString_relative] at empty
    have nonempty : ∀ name ∈ chain.getLast?, name ≠ "" := by
      intro name last
      have parts := congrArg (fun q : Path => q.parts.getLast?) same
      simp only [below] at parts
      rw [List.getLast?_append_of_ne_nil _ some_, List.getLast?_append, last, Option.some_or]
        at parts
      exact (valid name (List.mem_of_getLast? parts)).nonempty
    cases chain with
    | nil => exact absurd empty (by decide)
    | cons name more =>
      cases more with
      | nil => exact nonempty name rfl (by simpa using empty)
      | cons next rest =>
        have text := congrArg String.toList empty
        rw [if_neg (List.cons_ne_nil _ _), String.toList_intercalate, List.map_cons, List.map_cons,
          List.intercalate_cons_cons] at text
        simp at text

end Path

namespace Site

variable {site : Site} {registry : Registry} {reader : TripleReader} {start : Path}
  {o : BuildOptions} {g : Graph}

/-- A build makes a graph: it returns it, or it fails because the graph is not valid, and leaves it to
be looked at. -/
def Makes (site : Site) (registry : Registry) (reader : TripleReader) (start : Path)
    (o : BuildOptions) (g : Graph) : Prop :=
  (site.build registry reader start o).result = .ok g ∨
    ∃ v, (site.build registry reader start o).result = .error (.invalid g v)

/-- Where the graph of a build comes from. -/
theorem scanned_of_makes (h : site.Makes registry reader start o g) :
    ∃ root scan, site.root start = .ok root ∧ site.scan registry root o.scan = .ok scan ∧
      (scan.flagged.map (reader.intake root)).findSome? Intake.halt? = none ∧
      g = Graph.ofFiles reader root scan.flagged := by
  unfold Makes build at h
  cases begun : site.root start with
  | error e =>
    rw [begun] at h
    rcases h with returned | ⟨v, failed⟩
    · cases returned
    · cases failed
  | ok root =>
    rw [begun] at h
    change (site.buildFrom registry reader root o).result = .ok g ∨
      ∃ v, (site.buildFrom registry reader root o).result = .error (.invalid g v) at h
    cases found : site.scan registry root o.scan with
    | error e =>
      unfold buildFrom at h
      rw [found] at h
      rcases h with returned | ⟨v, failed⟩
      · cases returned
      · cases failed
    | ok scan =>
      rw [buildFrom_result reader o found, Graph.ofScan_eq] at h
      refine ⟨root, scan, rfl, found, ?_⟩
      cases goes : (scan.flagged.map (reader.intake root)).findSome? Intake.halt? with
      | some e =>
        rw [goes] at h
        rcases h with returned | ⟨v, failed⟩
        · cases returned
        · cases failed
      | none =>
        rw [goes] at h
        exact ⟨rfl, Graph.eq_of_finish h⟩

/-- Where a build that returns comes from. -/
theorem scanned_of_build (h : (site.build registry reader start o).result = .ok g) :
    ∃ root scan, site.root start = .ok root ∧ site.scan registry root o.scan = .ok scan ∧
      (scan.flagged.map (reader.intake root)).findSome? Intake.halt? = none ∧
      g = Graph.ofFiles reader root scan.flagged :=
  scanned_of_makes (Or.inl h)

/-- The labels of blank nodes, qualified by the paths of their files, tell the nodes apart. -/
theorem labels_apart {root other : Path} {paths : List Path} (parses : reader.Parses)
    (rooted : other.slashes ≠ 0) (beneath : ∀ p ∈ paths, p.Beneath other) {p q : Path}
    (left : p ∈ paths) (right : q ∈ paths) {ts us : List Triple} (read : reader p = .ok ts)
    (readToo : reader q = .ok us) {b c : BlankNode} (member : b ∈ blanksOfAll ts)
    (memberToo : c ∈ blanksOfAll us)
    (same : scopedLabel b.label (p.relativeText root) =
      scopedLabel c.label (q.relativeText root)) : p = q ∧ b = c := by
  obtain ⟨_, parsed⟩ := parses p ts read
  obtain ⟨_, parsedToo⟩ := parses q us readToo
  have numbered := (printable_of_parseBytes parsed).numbered
  have numberedToo := (printable_of_parseBytes parsedToo).numbered
  rw [labelsOfAll_eq] at numbered numberedToo
  obtain ⟨n, one⟩ := numbered.exists_eq (List.mem_map_of_mem member)
  obtain ⟨m, two⟩ := numberedToo.exists_eq (List.mem_map_of_mem memberToo)
  have here := beneath p left
  have there := beneath q right
  have labels := same
  rw [one, two] at labels
  obtain ⟨texts, numbers⟩ := scopedLabel_injective (here.relativeText_ne rooted root)
    (there.relativeText_ne rooted root) labels
  obtain rfl := here.eq_of_relativeText rooted root there texts
  obtain rfl : ts = us := Except.ok.inj (read.symm.trans readToo)
  refine ⟨rfl, List.inj_on_of_nodup_map numbered.nodup member memberToo ?_⟩
  rw [one, two, numbers]

/-- The rows of the store of a build that have the label of a blank node as their subject. -/
theorem filter_rowsOf {root other : Path} {paths : List Path} (parses : reader.Parses)
    (rooted : other.slashes ≠ 0) (beneath : ∀ p ∈ paths, p.Beneath other)
    (plain : ∀ p ∈ paths, ∀ ts, reader p = .ok ts →
      ∀ t ∈ ts, ¬blankMark.toList <+: t.subject.toList) {p : Path} (left : p ∈ paths)
    {ts : List Triple} (read : reader p = .ok ts) {b : BlankNode} (member : b ∈ blanksOfAll ts) :
    let label := scopedLabel b.label (p.relativeText root)
    ((paths.flatMap (reader.rowsOf root)).eraseDups.filter fun row => row.subject = label) =
      (b.triples.map fun t => t.row (p.relativeText root) label).eraseDups := by
  intro label
  obtain ⟨_, parsed⟩ := parses p ts read
  have numbered := (printable_of_parseBytes parsed).numbered
  rw [labelsOfAll_eq] at numbered
  have marked : blankMark.toList <+: label.toList := by
    obtain ⟨n, one⟩ := numbered.exists_eq (List.mem_map_of_mem member)
    have text : label = blankMark ++ p.relativeText root ++ "#b" ++ toString n := by
      rw [← scopedLabel_nodeLabel n ((beneath p left).relativeText_ne rooted root), ← one]
    rw [text]
    simp
  have differs : ∀ q ∈ paths, ∀ us, reader q = .ok us → ∀ t ∈ us, t.subject ≠ label :=
    fun q listed us read t inside same => plain q listed us read t inside (same ▸ marked)
  -- What is in a node with that label is in this one.
  have only : ∀ q ∈ paths, ∀ us, reader q = .ok us → ∀ e ∈ insideAll us,
      scopedLabel e.1 (q.relativeText root) = label → p = q ∧ e.1 = b.label := by
    intro q listed us readToo e inside same
    obtain ⟨c, memberToo, named⟩ := List.mem_map.mp (label_of_insideAll inside)
    rw [← named] at same ⊢
    obtain ⟨here, rfl⟩ := labels_apart parses rooted beneath left listed read readToo member
      memberToo same.symm
    exact ⟨here, rfl⟩
  have elsewhere : ∀ q ∈ paths, q ≠ p →
      (reader.rowsOf root q).filter (fun row => row.subject = label) = [] := by
    intro q listed differ
    unfold TripleReader.rowsOf
    cases readToo : reader q with
    | error failure => rfl
    | ok us =>
      dsimp only
      rw [filter_rows _ (differs q listed us readToo), List.map_eq_nil_iff, List.filter_eq_nil_iff]
      intro e inside same
      exact differ (only q listed us readToo e inside (of_decide_eq_true same)).1.symm
  have here : (reader.rowsOf root p).filter (fun row => row.subject = label) =
      b.triples.map fun t => t.row (p.relativeText root) label := by
    have sameNode : ∀ e ∈ insideAll ts,
        decide (scopedLabel e.1 (p.relativeText root) = label) = decide (e.1 = b.label) := by
      intro e inside
      refine decide_eq_decide.mpr ⟨fun same => (only p left ts read e inside same).2, ?_⟩
      intro same
      rw [same]
    unfold TripleReader.rowsOf
    rw [read]
    dsimp only
    rw [filter_rows _ (differs p left ts read), List.filter_congr sameNode,
      filter_insideAll numbered.nodup member, List.map_map]
    rfl
  rw [filter_eraseDups, List.filter_flatMap, eraseDups_flatMap _ left elsewhere, here]

/-- A build that returns has stored the rows of the files with a block that can be read, in the
order of the files and each row where it occurs first, and counts them.

The rows of a triple are its own and those of the triples within its object, depth first. The blank
nodes of a file are numbered in the order in which they are opened. A row in a node has the label of
the node as its subject, behind the path of the file, and so does the row that names the node have
it as its object. Such labels tell the nodes of all files apart. If no other subject begins as they
do, the rows with the label of a node as their subject are those of its triples. -/
theorem build_stores (site : Site) (registry : Registry) (reader : TripleReader) (start : Path)
    (o : BuildOptions) (g : Graph) (tree : site.files.WellFormed) (parses : reader.Parses)
    (returned : (site.build registry reader start o).result = .ok g) :
    ∃ root scan, site.root start = .ok root ∧ site.scan registry root o.scan = .ok scan ∧
      (scan.flagged.Pairwise fun p q => p.toString ≤ q.toString) ∧
      g.store.rows = (scan.flagged.flatMap (reader.rowsOf root)).eraseDups ∧
      g.stats.totalTriples = g.store.rows.length ∧
      ∀ p ∈ scan.flagged, ∀ ts, reader p = .ok ts →
        (∀ t ∈ ts, t.rows (p.relativeText root) =
          t.row (p.relativeText root) t.subject ::
            t.object.within.map (rowWithin (p.relativeText root))) ∧
        (blanksOfAll ts).map BlankNode.label =
          (List.range (blanksOfAll ts).length).map Block.nodeLabel ∧
        (∀ n, scopedLabel (Block.nodeLabel n) (p.relativeText root) =
          "_:" ++ p.relativeText root ++ "#b" ++ toString n) ∧
        (∀ b ∈ blanksOfAll ts, ∀ q ∈ scan.flagged, ∀ us, reader q = .ok us →
          ∀ c ∈ blanksOfAll us, scopedLabel b.label (p.relativeText root) =
            scopedLabel c.label (q.relativeText root) → p = q ∧ b = c) ∧
        ((∀ q ∈ scan.flagged, ∀ us, reader q = .ok us →
            ∀ t ∈ us, ¬"_:".toList <+: t.subject.toList) →
          ∀ b ∈ blanksOfAll ts,
            (g.store.rows.filter fun row =>
                row.subject = scopedLabel b.label (p.relativeText root)) =
              (b.triples.map fun t => t.row (p.relativeText root)
                (scopedLabel b.label (p.relativeText root))).eraseDups) := by
  obtain ⟨root, scan, begun, found, goes, rfl⟩ := scanned_of_build returned
  obtain ⟨plan, reaches, alike⟩ := found_of_scan found
  have beneath := flagged_beneath registry tree alike.files
  have rooted := slashes_of_root reaches.root
  have rows := Graph.rows_ofFiles goes
  refine ⟨root, scan, begun, found, mergeSort_key_pairwise _ _, rows, rfl, ?_⟩
  intro p left ts read
  obtain ⟨_, parsed⟩ := parses p ts read
  have numbered := (printable_of_parseBytes parsed).numbered
  rw [labelsOfAll_eq, Block.Numbered, List.length_map, ← List.range_eq_range'] at numbered
  refine ⟨fun t _ => t.rows_eq _, numbered, ?_, ?_, ?_⟩
  · intro n
    exact scopedLabel_nodeLabel n ((beneath p left).relativeText_ne rooted root)
  · intro b member q right us readToo c memberToo same
    exact labels_apart parses rooted beneath left right read readToo member memberToo same
  · intro plain b member
    rw [rows]
    exact filter_rowsOf parses rooted beneath plain left read member

end Site

/-! ## Two files with the same block -/

/-- A file with a module that has a blank node. -/
def nodeFile : List UInt8 :=
  fileWith "<m> a code:Module; code:config [ code:name \"x\" ] ."

/-- The module, under the path of its file. -/
def nodeModule (name : String) : Module :=
  { path := name, uri := "m", properties := [("https://schema.codedoc.org/config", ["_:b0"])] }

/-- The rows of a file with that path. -/
def nodeRows (name : String) : List Row :=
  [⟨"m", Block.typePredicate, "https://schema.codedoc.org/Module"⟩,
    ⟨"m", "https://schema.codedoc.org/config", "_:" ++ name ++ "#b0"⟩,
    ⟨"_:" ++ name ++ "#b0", "https://schema.codedoc.org/name", "x"⟩]

/-- What becomes of a file with that name and these triples. -/
def intakeOfTriples (name : String) (ts : List Triple) : Intake :=
  TripleReader.intake (fun _ => .ok ts) ⟨1, ["src"]⟩ ⟨1, ["src", name]⟩

/-- What becomes of a file is decided by its triples. -/
theorem intakeOf_eq {bytes : List UInt8} {ts : List Triple}
    (parsed : Block.parseBytes bytes = .ok ts) (name : String) :
    intakeOf name bytes = intakeOfTriples name ts := by
  unfold intakeOf
  rw [parsed]
  rfl

/-- The triples of the file, and what becomes of it under both names. -/
theorem parse_nodeFile :
    ∃ ts, Block.parseBytes nodeFile = .ok ts ∧ ts.map Triple.subject = ["m", "m"] ∧
      (blanksOfAll ts).map BlankNode.label = ["_:b0"] ∧
      intakeOfTriples "a.py" ts = .taken (nodeRows "a.py") (some (nodeModule "a.py")) ∧
      intakeOfTriples "b.py" ts = .taken (nodeRows "b.py") (some (nodeModule "b.py")) := by
  -- Triples cannot be compared by evaluation, but what becomes of them can.
  have views : ((Block.parseBytes nodeFile).map fun ts => (ts.map Triple.subject, labelsOfAll ts,
      intakeOfTriples "a.py" ts, intakeOfTriples "b.py" ts)) =
      .ok (["m", "m"], ["_:b0"], .taken (nodeRows "a.py") (some (nodeModule "a.py")),
        .taken (nodeRows "b.py") (some (nodeModule "b.py"))) := by
    decide +kernel
  cases parsed : Block.parseBytes nodeFile with
  | error e =>
    rw [parsed] at views
    cases views
  | ok ts =>
    rw [parsed] at views
    obtain ⟨subjects, views⟩ := Prod.mk.inj (Except.ok.inj views)
    obtain ⟨labels, views⟩ := Prod.mk.inj views
    obtain ⟨first, second⟩ := Prod.mk.inj views
    exact ⟨ts, rfl, subjects, labelsOfAll_eq ts ▸ labels, first, second⟩

/-- The file is taken under both names. -/
theorem intakes_of_nodeFile :
    intakeOf "a.py" nodeFile = .taken (nodeRows "a.py") (some (nodeModule "a.py")) ∧
      intakeOf "b.py" nodeFile = .taken (nodeRows "b.py") (some (nodeModule "b.py")) := by
  obtain ⟨ts, parsed, -, -, first, second⟩ := parse_nodeFile
  exact ⟨(intakeOf_eq parsed _).trans first, (intakeOf_eq parsed _).trans second⟩

namespace Site

/-- Two files with the same block. -/
abbrev nodes : Site :=
  duo nodeFile nodeFile

/-- The files of the tree are taken in this order. -/
theorem nodes_intakes :
    [⟨1, ["src", "a.py"]⟩, ⟨1, ["src", "b.py"]⟩].map
        (nodes.files.tripleReader.intake ⟨1, ["src"]⟩) =
      [.taken (nodeRows "a.py") (some (nodeModule "a.py")),
        .taken (nodeRows "b.py") (some (nodeModule "b.py"))] := by
  rw [duo_intakes_eq, intakes_of_nodeFile.1, intakes_of_nodeFile.2]

/-- Both files of the tree have the same triples. -/
theorem nodes_read {ts : List Triple} (parsed : Block.parseBytes nodeFile = .ok ts) :
    ∀ p ∈ [Path.mk 1 ["src", "a.py"], ⟨1, ["src", "b.py"]⟩],
      nodes.files.tripleReader p = .ok ts := by
  have read : ∀ p, nodes.files.locate p = .ok (.file nodeFile 0) →
      nodes.files.tripleReader p = .ok ts := by
    intro p located
    unfold FileSystem.tripleReader FileSystem.read
    rw [located]
    dsimp only
    rw [parsed]
    rfl
  obtain ⟨one, two⟩ := duo_located nodeFile nodeFile
  exact List.forall_mem_cons.mpr ⟨read _ one, List.forall_mem_singleton.mpr (read _ two)⟩

/-- The tree builds a graph with both modules. -/
theorem nodes_build :
    (nodes.build .standard nodes.files.tripleReader ⟨1, ["src"]⟩ { scan := duoOptions }).result =
      .ok (Graph.ofFiles nodes.files.tripleReader ⟨1, ["src"]⟩
        [⟨1, ["src", "a.py"]⟩, ⟨1, ["src", "b.py"]⟩]) := by
  obtain ⟨first, second⟩ := intakes_of_nodeFile
  refine duo_build (hasStartMark_append _) (hasStartMark_append _) ?_ ?_
  · rw [first]
    rfl
  · rw [second]
    rfl

/-- The rows and the modules of that graph. -/
theorem nodes_graph :
    let g := Graph.ofFiles nodes.files.tripleReader ⟨1, ["src"]⟩
      [⟨1, ["src", "a.py"]⟩, ⟨1, ["src", "b.py"]⟩]
    g.modules.modules = [nodeModule "a.py", nodeModule "b.py"] ∧
      g.store.rows = (nodeRows "a.py" ++ nodeRows "b.py").eraseDups := by
  simp only [Graph.ofFiles, nodes_intakes]
  exact ⟨rfl, rfl⟩

/-- Both nodes have the first label in their files, and the store tells them apart. -/
theorem build_stores_in_duo :
    ∃ g, (nodes.build .standard nodes.files.tripleReader ⟨1, ["src"]⟩
        { scan := duoOptions }).result = .ok g ∧
      g.store.rows = (nodeRows "a.py" ++ nodeRows "b.py").eraseDups ∧ g.stats.totalTriples = 5 ∧
      ∃ b : BlankNode, b.label = "_:b0" ∧
        (g.store.rows.filter fun row => row.subject = "_:a.py#b0") =
          (b.triples.map fun t => t.row "a.py" "_:a.py#b0").eraseDups := by
  have found := duo_scan nodeFile nodeFile (hasStartMark_append _) (hasStartMark_append _)
  obtain ⟨root, scan, begun, returned, -, -, count, files⟩ := build_stores nodes .standard
    nodes.files.tripleReader ⟨1, ["src"]⟩ { scan := duoOptions } _
    (duo_wellFormed nodeFile nodeFile) (FileSystem.tripleReader_parses _) nodes_build
  obtain rfl : root = ⟨1, ["src"]⟩ :=
    Except.ok.inj (begun.symm.trans (duo_reaches nodeFile nodeFile).root)
  obtain rfl : scan = _ := Except.ok.inj (returned.symm.trans found)
  rw [duo_flagged] at files
  obtain ⟨ts, parsed, subjects, labels, -, -⟩ := parse_nodeFile
  have read := nodes_read parsed
  have plain : ∀ q ∈ [Path.mk 1 ["src", "a.py"], ⟨1, ["src", "b.py"]⟩], ∀ us,
      nodes.files.tripleReader q = .ok us → ∀ t ∈ us, ¬"_:".toList <+: t.subject.toList := by
    intro q listed us readToo t member
    obtain rfl : us = ts := Except.ok.inj (readToo.symm.trans (read q listed))
    have named : t.subject ∈ ["m", "m"] := subjects ▸ List.mem_map_of_mem member
    rcases List.mem_pair.mp named with same | same
    · rw [same]
      decide
    · rw [same]
      decide
  obtain ⟨b, member, label⟩ := List.mem_map.mp (labels ▸ List.mem_singleton_self "_:b0")
  obtain ⟨-, -, -, -, node⟩ := files _ List.mem_cons_self ts (read _ List.mem_cons_self)
  have inside := node plain b member
  rw [label] at inside
  refine ⟨_, nodes_build, nodes_graph.2, ?_, b, label, inside⟩
  rw [count, nodes_graph.2]
  rfl

end Site

end DocGraph
