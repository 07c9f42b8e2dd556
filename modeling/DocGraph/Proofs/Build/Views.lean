import DocGraph.Proofs.Build.Storing
import DocGraph.Proofs.Graph.Validity

/-!
# Modules and the rows of their files

A module and the store are filled from the same triples. `build_records` says where the store has
what a module says: under the URI of the module, with a predicate that leads to the field, and with
the value as it is, unless the value is the label of a blank node. Such a label is the one that the
node has in its own file, while the store has the node under the qualified one. So the label that a
module has does not lead to the node, as `build_of_nodes` shows.
-/

set_option autoImplicit false

namespace DocGraph

/-! ## What a module takes from triples -/

/-- A value that is added once is there, beside the others. -/
theorem mem_addOnce {values : List String} {value v : String} :
    v ∈ addOnce values value ↔ v ∈ values ∨ v = value := by
  unfold addOnce
  split
  next old =>
    constructor
    · exact Or.inl
    · rintro (known | rfl)
      · exact known
      · exact old
  · rw [List.mem_append, List.mem_singleton]

/-- A triple has something else than its object for a module only if it names a dependency. -/
theorem Triple.moduleValue_eq {t : Triple}
    (h : Field.ofLocalName? t.localName ≠ some .dependency) : t.moduleValue = t.object.text :=
  if_neg h

namespace Module

/-- The list that the values of a field go to. -/
def listed (m : Module) : Field → List String
  | .tag => m.tags
  | .exported => m.exports
  | .call => m.calls
  | _ => []

variable {m : Module} {field : Field} {predicate value v : String}

/-- A list grows by the values that are given to its field. -/
theorem mem_listed_put {other : Field} (h : v ∈ (m.put value other).listed field) :
    v ∈ m.listed field ∨ other = field ∧ v = value := by
  cases other with
  | tag =>
    cases field with
    | tag => exact (mem_addOnce.mp h).imp_right fun new => ⟨rfl, new⟩
    | _ => exact Or.inl h
  | exported =>
    cases field with
    | exported => exact (mem_addOnce.mp h).imp_right fun new => ⟨rfl, new⟩
    | _ => exact Or.inl h
  | call =>
    cases field with
    | call => exact (mem_addOnce.mp h).imp_right fun new => ⟨rfl, new⟩
    | _ => exact Or.inl h
  | _ => cases field <;> exact Or.inl h

/-- A list grows by the values of the predicates that lead to it. -/
theorem mem_listed_apply (h : v ∈ (m.apply predicate value).listed field) :
    v ∈ m.listed field ∨ Field.ofLocalName? (localName predicate) = some field ∧ v = value := by
  unfold apply at h
  cases found : Field.ofLocalName? (localName predicate) with
  | none =>
    rw [found] at h
    cases field <;> exact Or.inl h
  | some other =>
    rw [found] at h
    exact (mem_listed_put h).imp_right fun ⟨same, new⟩ => ⟨congrArg some same, new⟩

/-- The properties grow by the values of the predicates that lead to no field. -/
theorem mem_properties_apply {other : String}
    (h : v ∈ valuesUnder (m.apply predicate value).properties other) :
    v ∈ valuesUnder m.properties other ∨
      (Field.ofLocalName? (localName predicate) = none ∧ predicate = other) ∧ v = value := by
  unfold apply at h
  cases found : Field.ofLocalName? (localName predicate) with
  | some field =>
    rw [found] at h
    cases field <;> exact Or.inl h
  | none =>
    rw [found] at h
    dsimp only [addProperty] at h
    rw [valuesUnder_addUnder, List.mem_append] at h
    refine h.imp_right fun new => ?_
    by_cases same : other = predicate
    · rw [if_pos same, List.mem_singleton] at new
      exact ⟨⟨rfl, same.symm⟩, new⟩
    · rw [if_neg same] at new
      cases new

/-- What is empty at first, and grows by the values of some predicates, has in the module that
triples describe the values of triples with such predicates. -/
theorem mem_ofTriples (view : Module → List String) {leads : String → Prop}
    (grows : ∀ {m : Module} {predicate value v : String}, v ∈ view (m.apply predicate value) →
      v ∈ view m ∨ leads predicate ∧ v = value)
    {path subject : String} {ts : List Triple} (first : view { path, uri := subject } = [])
    (h : v ∈ view (ofTriples path subject ts)) :
    ∃ t ∈ ts, t.subject = subject ∧ leads t.predicate ∧ t.moduleValue = v := by
  have told : ∀ (told : List Triple) (m : Module),
      v ∈ view (told.foldl (fun m t => m.apply t.predicate t.moduleValue) m) →
        v ∈ view m ∨ ∃ t ∈ told, leads t.predicate ∧ t.moduleValue = v := by
    intro told
    induction told with
    | nil => exact fun m => Or.inl
    | cons t rest ih =>
      intro m inside
      rw [List.foldl_cons] at inside
      rcases ih _ inside with here | ⟨u, member, leads, same⟩
      · rcases grows here with old | ⟨leads, new⟩
        · exact Or.inl old
        · exact Or.inr ⟨t, List.mem_cons_self, leads, new.symm⟩
      · exact Or.inr ⟨u, List.mem_cons_of_mem _ member, leads, same⟩
  rcases told _ _ h with none_ | ⟨t, member, leads, same⟩
  · rw [first] at none_
    cases none_
  · obtain ⟨listed, describes⟩ := List.mem_filter.mp member
    exact ⟨t, listed, of_decide_eq_true (Bool.and_eq_true_iff.mp describes).1, leads, same⟩

variable {path subject : String} {ts : List Triple}

/-- What a field lists is the object of a triple about the module. -/
theorem mem_listed_ofTriples (h : v ∈ (ofTriples path subject ts).listed field) :
    ∃ t ∈ ts, t.subject = subject ∧ Field.ofLocalName? t.localName = some field ∧
      t.object.text = v := by
  have first : listed { path, uri := subject } field = [] := by cases field <;> rfl
  obtain ⟨t, member, about, leads, same⟩ :=
    mem_ofTriples (fun m => m.listed field) mem_listed_apply first h
  refine ⟨t, member, about, leads, ?_⟩
  rw [← same, Triple.moduleValue_eq]
  -- References are resolved, and no list here has them.
  intro dependency
  obtain rfl : field = .dependency := Option.some.inj (leads.symm.trans dependency)
  cases h

/-- What a property lists is the object of a triple about the module with that predicate. -/
theorem mem_properties_ofTriples {predicate : String}
    (h : v ∈ valuesUnder (ofTriples path subject ts).properties predicate) :
    ∃ t ∈ ts, t.subject = subject ∧ t.predicate = predicate ∧ t.object.text = v := by
  obtain ⟨t, member, about, ⟨leads, named⟩, same⟩ :=
    mem_ofTriples (fun m => valuesUnder m.properties predicate) mem_properties_apply rfl h
  refine ⟨t, member, about, named, ?_⟩
  rw [← same, Triple.moduleValue_eq]
  intro dependency
  cases leads.symm.trans dependency

/-- The module that triples describe has the URI of the subject that they describe. -/
theorem uri_ofTriples (path subject : String) (ts : List Triple) :
    (ofTriples path subject ts).uri = subject :=
  Graph.ofTriples_keeps Module.uri (fun _ _ f => by cases f <;> rfl) (fun _ _ _ => rfl) _ _ _

end Module

/-! ## Where the store has it -/

namespace Graph

variable {g : Graph} {reader : TripleReader} {root : Path} {paths : List Path}

/-- The store has a value that a module has taken from triples: as it is, or, if it is the label of
a blank node, qualified by the path of the module, and then also what the node says. -/
def Records (g : Graph) (m : Module) (ts : List Triple) (predicate value : String) : Prop :=
  ⟨m.uri, predicate, value⟩ ∈ g.store.rows ∨
    ∃ b ∈ blanksOfAll ts, b.label = value ∧
      ⟨m.uri, predicate, scopedLabel value m.path⟩ ∈ g.store.rows ∧
      ∀ t ∈ b.triples, t.row m.path (scopedLabel value m.path) ∈ g.store.rows

/-- A triple whose rows are stored is recorded. -/
theorem records_of_rows {m : Module} {ts : List Triple} {t : Triple} (member : t ∈ ts)
    (about : t.subject = m.uri) (stored : t.rows m.path ⊆ g.store.rows) :
    g.Records m ts t.predicate t.object.text := by
  obtain ⟨s, p, o⟩ := t
  obtain rfl : s = m.uri := about
  rw [Triple.rows_eq] at stored
  obtain ⟨own, within⟩ := List.cons_subset.mp stored
  cases o with
  | literal value => exact Or.inl own
  | uri value => exact Or.inl own
  | blank label triples =>
    have opened : ⟨label, triples⟩ ∈ blanksOfAll ts := by
      rw [blanksOfAll_eq]
      exact List.mem_flatMap.mpr ⟨_, member, List.mem_cons_self⟩
    refine Or.inr ⟨_, opened, rfl, own, fun t inner => within ?_⟩
    refine List.mem_map.mpr ⟨(label, t), ?_, rfl⟩
    show (label, t) ∈ withinAll label triples
    rw [withinAll_eq]
    exact List.mem_flatMap.mpr ⟨t, inner, List.mem_cons_self⟩

/-- A module is there from before, or a file describes it. -/
theorem mem_modules_foldl_take {intakes : List Intake} {e : String × Module}
    (h : e ∈ (intakes.foldl take g).modules) :
    e ∈ g.modules ∨ ∃ i ∈ intakes, i.described? = some e.2 := by
  induction intakes generalizing g with
  | nil => exact Or.inl h
  | cons i rest ih =>
    rcases ih h with here | ⟨j, member, described⟩
    · cases i with
      | taken rows described =>
        cases described with
        | none => exact Or.inl here
        | some m =>
          rcases mem_set here with rfl | old
          · exact Or.inr ⟨_, List.mem_cons_self, rfl⟩
          · exact Or.inl old
      | refused entry => exact Or.inl here
      | halts error => exact Or.inl here
    · exact Or.inr ⟨j, List.mem_cons_of_mem _ member, described⟩

/-- A module of the graph of files is what the triples of one of them describe, but for its
dependents. -/
theorem described_of_mem
    (goes : (paths.map (reader.intake root)).findSome? Intake.halt? = none) {m : Module}
    (h : m ∈ (ofFiles reader root paths).modules.modules) :
    ∃ p ∈ paths, ∃ ts, reader p = .ok ts ∧
      { m with dependents := [] } = Module.ofTriples (p.relativeText root) m.uri ts := by
  obtain ⟨e, member, rfl⟩ := List.mem_map.mp h
  have bare : (e.1, { e.2 with dependents := [] }) ∈ (ofFiles reader root paths).modules.bare :=
    List.mem_map_of_mem member
  have before := (bare_link (unlinked_foldl_take goes)) ▸ bare
  rcases mem_modules_foldl_take before with impossible | ⟨i, listed, described⟩
  · cases impossible
  obtain ⟨p, file, rfl⟩ := List.mem_map.mp listed
  obtain ⟨ts, subject, read, same⟩ := TripleReader.described_eq_some described
  obtain rfl : subject = e.2.uri :=
    ((congrArg Module.uri same).trans (Module.uri_ofTriples _ _ _)).symm
  exact ⟨p, file, ts, read, same⟩

end Graph

namespace Site

/-- In a build that returns, the store has what the modules have taken from their files. For a value
of the properties it has it under the same predicate, and for a value of a list under a predicate
that leads to the list. -/
theorem build_records (site : Site) (registry : Registry) (reader : TripleReader) (start : Path)
    (o : BuildOptions) (g : Graph)
    (returned : (site.build registry reader start o).result = .ok g) :
    ∃ root scan, site.root start = .ok root ∧ site.scan registry root o.scan = .ok scan ∧
      ∀ m ∈ g.modules.modules, ∃ p ∈ scan.flagged, ∃ ts, reader p = .ok ts ∧
        m.path = p.relativeText root ∧
        (∀ predicate, ∀ v ∈ valuesUnder m.properties predicate, g.Records m ts predicate v) ∧
        ∀ field, ∀ v ∈ m.listed field, ∃ predicate,
          Field.ofLocalName? (localName predicate) = some field ∧ g.Records m ts predicate v := by
  obtain ⟨root, scan, begun, found, goes, rfl⟩ := scanned_of_build returned
  refine ⟨root, scan, begun, found, fun m member => ?_⟩
  obtain ⟨p, listed, ts, read, same⟩ := Graph.described_of_mem goes member
  have path : m.path = p.relativeText root :=
    (congrArg Module.path same).trans (Graph.path_ofTriples _ _ _)
  have stored : ∀ t ∈ ts, t.rows m.path ⊆ (Graph.ofFiles reader root scan.flagged).store.rows := by
    intro t inside row own
    rw [Graph.rows_ofFiles goes, List.mem_eraseDups]
    refine List.mem_flatMap.mpr ⟨p, listed, ?_⟩
    rw [TripleReader.rowsOf, read]
    exact List.mem_flatMap.mpr ⟨t, inside, path ▸ own⟩
  refine ⟨p, listed, ts, read, path, ?_, ?_⟩
  · intro predicate v value
    have properties := congrArg Module.properties same
    change m.properties = _ at properties
    rw [properties] at value
    obtain ⟨t, inside, about, rfl, rfl⟩ := Module.mem_properties_ofTriples value
    exact Graph.records_of_rows inside about (stored t inside)
  · intro field v value
    have lists := congrArg (fun n : Module => n.listed field) same
    change m.listed field = _ at lists
    rw [lists] at value
    obtain ⟨t, inside, about, leads, rfl⟩ := Module.mem_listed_ofTriples value
    exact ⟨t.predicate, leads, Graph.records_of_rows inside about (stored t inside)⟩

/-- What the module of the first file has of its node is recorded. -/
theorem build_records_in_duo :
    ∃ g ts, (nodes.build .standard nodes.files.tripleReader ⟨1, ["src"]⟩
        { scan := duoOptions }).result = .ok g ∧ nodeModule "a.py" ∈ g.modules.modules ∧
      nodes.files.tripleReader ⟨1, ["src", "a.py"]⟩ = .ok ts ∧
      g.Records (nodeModule "a.py") ts "https://schema.codedoc.org/config" "_:b0" := by
  have found := duo_scan nodeFile nodeFile (hasStartMark_append _) (hasStartMark_append _)
  obtain ⟨root, scan, begun, returned, all⟩ := build_records nodes .standard
    nodes.files.tripleReader ⟨1, ["src"]⟩ { scan := duoOptions } _ nodes_build
  obtain rfl : root = ⟨1, ["src"]⟩ :=
    Except.ok.inj (begun.symm.trans (duo_reaches nodeFile nodeFile).root)
  obtain rfl : scan = _ := Except.ok.inj (returned.symm.trans found)
  have member : nodeModule "a.py" ∈ (Graph.ofFiles nodes.files.tripleReader ⟨1, ["src"]⟩
      [⟨1, ["src", "a.py"]⟩, ⟨1, ["src", "b.py"]⟩]).modules.modules := by
    rw [nodes_graph.1]
    exact List.mem_cons_self
  obtain ⟨p, listed, us, readToo, -, properties, -⟩ := all _ member
  obtain ⟨ts, parsed, -, -⟩ := parse_nodeFile
  rw [duo_flagged] at listed
  obtain rfl : us = ts := Except.ok.inj (readToo.symm.trans (nodes_read parsed p listed))
  exact ⟨_, us, nodes_build, member, nodes_read parsed _ List.mem_cons_self,
    properties _ _ (List.mem_singleton_self _)⟩

/-- A module whose block has a blank node has its label, under which the store has nothing. -/
theorem build_of_nodes :
    ∃ g m, (nodes.build .standard nodes.files.tripleReader ⟨1, ["src"]⟩
        { scan := duoOptions }).result = .ok g ∧ m ∈ g.modules.modules ∧
      "_:b0" ∈ valuesUnder m.properties "https://schema.codedoc.org/config" ∧
      ⟨m.uri, "https://schema.codedoc.org/config", "_:b0"⟩ ∉ g.store.rows ∧
      ∀ row ∈ g.store.rows, row.subject ≠ "_:b0" := by
  obtain ⟨modules, rows⟩ := nodes_graph
  refine ⟨_, nodeModule "a.py", nodes_build, ?_, List.mem_singleton_self _, ?_, ?_⟩
  · rw [modules]
    exact List.mem_cons_self
  · rw [rows]
    decide
  · rw [rows]
    decide

end Site

end DocGraph
