import DocGraph.Proofs.Build.Views
import DocGraph.Proofs.Graph.Counts
import DocGraph.Proofs.Grouping

/-!
# What a module has of its triples

A module is put together triple by triple, and what it is in the end depends on the order of the triples
in each of its fields alone. `Module.Tells` says for each field what that is: single values are those of
the last triple, lists have each value where it occurs first, and the properties have all values under
the full predicate. Each triple about the module goes to one of these places, as `goesTo_unique` says.

`view_ofTriples` follows one field through all triples. What is left to say for a field is what a single
triple does to it.
-/

set_option autoImplicit false

namespace DocGraph

/-! ## Where a triple goes -/

/-- The local names of the predicates that lead to a field. -/
def Field.names : Field → List String
  | .name => ["name"]
  | .description => ["description"]
  | .language => ["language"]
  | .layer => ["layer"]
  | .tag => ["tag", "tags"]
  | .dependency => ["linksTo", "dependsOn"]
  | .exported => ["exports"]
  | .call => ["calls"]

/-- A local name belongs to the field that lists it. -/
theorem Field.ofLocalName?_eq_some_iff {name : String} {field : Field} :
    ofLocalName? name = some field ↔ name ∈ field.names := by
  constructor
  · intro h
    unfold ofLocalName? at h
    split at h <;> cases h <;> simp [names]
  · intro h
    cases field <;> simp only [names, List.mem_cons, List.not_mem_nil, or_false] at h <;>
      rcases h with rfl | rfl <;> rfl

/-- A triple goes to the field that its local name leads to, and otherwise to the properties. -/
def Triple.GoesTo (t : Triple) : Option Field → Prop
  | some field => t.localName ∈ field.names
  | none => ∀ field : Field, t.localName ∉ field.names

/-- A triple goes where the field of its local name is. -/
theorem Triple.goesTo_iff {t : Triple} {slot : Option Field} :
    t.GoesTo slot ↔ Field.ofLocalName? t.localName = slot := by
  cases slot with
  | some field => exact Field.ofLocalName?_eq_some_iff.symm
  | none =>
    rw [Option.eq_none_iff_forall_ne_some]
    exact forall_congr' fun field => not_congr Field.ofLocalName?_eq_some_iff.symm

instance (t : Triple) (slot : Option Field) : Decidable (t.GoesTo slot) :=
  decidable_of_iff _ Triple.goesTo_iff.symm

/-- A triple goes to one place. -/
theorem Triple.goesTo_unique (t : Triple) : ∃! slot, t.GoesTo slot := by
  simp only [goesTo_iff, existsUnique_eq']

/-- What a node stands for as a dependency: the first inner path, else the first inner name. -/
def Node.dependencyValue : Node → String
  | .blank label triples =>
    let inner := (triples.find? fun t => t.localName = "path").or
      (triples.find? fun t => t.localName = "name")
    inner.elim label fun t => t.object.text
  | other => other.text

/-- The reference of a node is the value that a dependency takes from it. -/
theorem Node.reference_eq (o : Node) : o.reference = o.dependencyValue := by
  cases o with
  | literal value => rfl
  | uri value => rfl
  | blank label triples =>
    unfold reference dependencyValue values
    dsimp only
    rw [← List.head?_filter, ← List.head?_filter]
    cases triples.filter fun t => decide (t.localName = "path") with
    | cons t rest => rfl
    | nil => cases triples.filter fun t => decide (t.localName = "name") <;> rfl

/-- The triples about a subject that go to one place. Those that give its type go nowhere. -/
def told (subject : String) (slot : Option Field) (ts : List Triple) : List Triple :=
  ts.filter fun t => t.subject = subject ∧ t.predicate ≠ Block.typePredicate ∧ t.GoesTo slot

/-- The value of the last one of some triples, if there is one. -/
def lastValue (ts : List Triple) : String :=
  (ts.getLast?.map fun t => t.object.text).getD ""

/-- The values of some triples, each where it occurs first. -/
def distinctValues (value : Triple → String) (ts : List Triple) : List String :=
  (ts.map value).eraseDups

namespace Module

/-- A module has what the triples about its subject tell, and nothing else. -/
structure Tells (m : Module) (file subject : String) (ts : List Triple) : Prop where
  path : m.path = file
  uri : m.uri = subject
  name : m.name = lastValue (told subject (some .name) ts)
  description : m.description = lastValue (told subject (some .description) ts)
  language : m.language = lastValue (told subject (some .language) ts)
  layer : m.layer = lastValue (told subject (some .layer) ts)
  tags : m.tags = distinctValues (fun t => t.object.text) (told subject (some .tag) ts)
  dependencies : m.dependencies =
    distinctValues (fun t => resolveDependency t.object.dependencyValue file)
      (told subject (some .dependency) ts)
  dependents : m.dependents = []
  exports : m.exports = distinctValues (fun t => t.object.text) (told subject (some .exported) ts)
  calls : m.calls = distinctValues (fun t => t.object.text) (told subject (some .call) ts)
  properties : m.properties =
    (distinctValues Triple.predicate (told subject none ts)).map fun predicate =>
      (predicate, ((told subject none ts).filter fun t => t.predicate = predicate).map
        fun t => t.object.text)

/-! ## Following one field -/

section View

variable {α : Type} (path subject : String) (ts : List Triple)

/-- A triple does not change the path of a module. -/
theorem path_apply (m : Module) (predicate value : String) :
    (m.apply predicate value).path = m.path := by
  unfold apply
  split
  next field _ => cases field <;> rfl
  · rfl

/-- If triples that go to one place change what is seen of a module, and no others do, then what is
seen in the end is what these triples make of it, one after the other. -/
theorem view_ofTriples (view : Module → α) (slot : Option Field) (update : α → Triple → α)
    (here : ∀ (m : Module) (t : Triple), m.path = path → t.GoesTo slot →
      view (m.apply t.predicate t.moduleValue) = update (view m) t)
    (elsewhere : ∀ (m : Module) (t : Triple), ¬t.GoesTo slot →
      view (m.apply t.predicate t.moduleValue) = view m) :
    view (ofTriples path subject ts) =
      (told subject slot ts).foldl update (view { path, uri := subject }) := by
  have kept : told subject slot ts =
      (ts.filter (Triple.describes subject)).filter fun t => t.GoesTo slot := by
    rw [told, List.filter_filter]
    refine List.filter_congr fun t _ => ?_
    simp [Triple.describes, Bool.and_comm, and_comm, and_assoc]
  have follows : ∀ (us : List Triple) (m : Module), m.path = path →
      view (us.foldl (fun m t => m.apply t.predicate t.moduleValue) m) =
        (us.filter fun t => t.GoesTo slot).foldl update (view m) := by
    intro us
    induction us with
    | nil => exact fun m _ => rfl
    | cons t rest ih =>
      intro m same
      rw [List.foldl_cons, ih _ ((path_apply m _ _).trans same), List.filter_cons]
      by_cases goes : t.GoesTo slot
      · rw [here m t same goes, if_pos (by simpa using goes), List.foldl_cons]
      · rw [elsewhere m t goes, if_neg (by simpa using goes)]
  rw [kept]
  exact follows _ _ rfl

/-- What is seen of a module changes only with the values that go to one field. -/
theorem view_field (view : Module → α) (field : Field) (update : α → Triple → α)
    (here : ∀ (m : Module) (t : Triple), m.path = path → t.GoesTo (some field) →
      view (m.put t.moduleValue field) = update (view m) t)
    (others : ∀ (m : Module) (value : String) (other : Field), other ≠ field →
      view (m.put value other) = view m)
    (property : ∀ (m : Module) (predicate value : String),
      view (m.addProperty predicate value) = view m) :
    view (ofTriples path subject ts) =
      (told subject (some field) ts).foldl update (view { path, uri := subject }) := by
  refine view_ofTriples path subject ts view (some field) update ?_ ?_
  · intro m t same goes
    have found : Field.ofLocalName? (localName t.predicate) = some field :=
      Triple.goesTo_iff.mp goes
    rw [apply, found]
    exact here m t same goes
  · intro m t goes
    have found : Field.ofLocalName? (localName t.predicate) ≠ some field := fun leads =>
      goes (Triple.goesTo_iff.mpr leads)
    unfold apply
    split
    next other leads =>
      refine others m _ other fun same => found ?_
      rw [leads, same]
    · exact property m _ _

end View

/-! ## What comes of values -/

/-- Of values that replace each other the last one stays. -/
theorem foldl_replace (ts : List Triple) (first : String) :
    ts.foldl (fun _ t => t.object.text) first = (ts.getLast?.map fun t => t.object.text).getD first := by
  induction ts using List.reverseRecOn with
  | nil => rfl
  | append_singleton ts t _ => rw [List.foldl_append, List.getLast?_concat]; rfl

/-! ## All fields -/

/-- The value of a field that has one. -/
def single (m : Module) : Field → String
  | .name => m.name
  | .description => m.description
  | .language => m.language
  | .layer => m.layer
  | _ => ""

/-- A value that is put into one field leaves the single values of the others. -/
theorem single_put_of_ne (m : Module) (value : String) {field other : Field} (differ : other ≠ field) :
    (m.put value other).single field = m.single field := by
  cases other <;> cases field <;> first | rfl | exact absurd rfl differ

/-- A value that is put into one field leaves the lists of the others. -/
theorem listed_put_of_ne (m : Module) (value : String) {field other : Field} (differ : other ≠ field) :
    (m.put value other).listed field = m.listed field := by
  cases other <;> cases field <;> first | rfl | exact absurd rfl differ

/-- The value for a field other than the dependencies is the text of the object. -/
theorem moduleValue_of_goesTo {t : Triple} {field : Field} (goes : t.GoesTo (some field))
    (plain : field ≠ .dependency) : t.moduleValue = t.object.text := by
  refine Triple.moduleValue_eq fun leads => plain ?_
  exact Option.some.inj ((Triple.goesTo_iff.mp goes).symm.trans leads)

variable (path subject : String) (ts : List Triple)

/-- A field with a single value has the last value that is told for it. -/
theorem single_ofTriples (field : Field) (plain : field ≠ .dependency)
    (replaces : ∀ (m : Module) (value : String), (m.put value field).single field = value) :
    (ofTriples path subject ts).single field = lastValue (told subject (some field) ts) := by
  have first : single { path, uri := subject } field = "" := by cases field <;> rfl
  have follows := view_field path subject ts
    (fun m => m.single field) field (fun _ t => t.object.text)
    (fun m t _ goes => by rw [replaces, moduleValue_of_goesTo goes plain])
    (fun m value other differ => single_put_of_ne m value differ)
    (fun m predicate value => by cases field <;> rfl)
  rw [follows, first, foldl_replace]
  rfl

/-- A field with a list has the values that are told for it, each once. -/
theorem listed_ofTriples (field : Field) (plain : field ≠ .dependency)
    (grows : ∀ (m : Module) (value : String),
      (m.put value field).listed field = addOnce (m.listed field) value) :
    (ofTriples path subject ts).listed field =
      distinctValues (fun t => t.object.text) (told subject (some field) ts) := by
  have first : listed { path, uri := subject } field = [] := by cases field <;> rfl
  have follows := view_field path subject ts
    (fun m => m.listed field) field (fun values t => addOnce values t.object.text)
    (fun m t _ goes => by rw [grows, moduleValue_of_goesTo goes plain])
    (fun m value other differ => listed_put_of_ne m value differ)
    (fun m predicate value => by cases field <;> rfl)
  rw [follows, first, foldl_addOnce]
  rfl

/-- The dependencies are the resolved values that are told for them, each once. -/
theorem dependencies_ofTriples :
    (ofTriples path subject ts).dependencies =
      distinctValues (fun t => resolveDependency t.object.dependencyValue path)
        (told subject (some .dependency) ts) := by
  have follows := view_field path subject ts
    Module.dependencies .dependency
    (fun values t => addOnce values (resolveDependency t.object.dependencyValue path))
    (fun m t same goes => by
      have value : t.moduleValue = t.object.dependencyValue := by
        rw [Triple.moduleValue, if_pos (Triple.goesTo_iff.mp goes), Node.reference_eq]
      rw [value, ← same]
      rfl)
    (fun m value other differ => by cases other <;> first | rfl | exact absurd rfl differ)
    (fun m predicate value => rfl)
  rw [follows, foldl_addOnce]
  rfl

/-- The properties are the other predicates that are told, each with all its values. -/
theorem properties_ofTriples :
    (ofTriples path subject ts).properties =
      (distinctValues Triple.predicate (told subject none ts)).map fun predicate =>
        (predicate, ((told subject none ts).filter fun t => t.predicate = predicate).map
          fun t => t.object.text) := by
  have follows := view_ofTriples path subject ts
    Module.properties none (fun table t => addUnder table t.predicate t.object.text) ?_ ?_
  · rw [follows]
    exact grouped_eq Triple.predicate (fun t => t.object.text) _
  · intro m t _ goes
    have found : Field.ofLocalName? (localName t.predicate) = none := Triple.goesTo_iff.mp goes
    have value : t.moduleValue = t.object.text := by
      refine Triple.moduleValue_eq fun leads => ?_
      cases found.symm.trans leads
    rw [apply, found, value]
    rfl
  · intro m t goes
    generalize t.moduleValue = value
    unfold apply
    split
    next field _ => cases field <;> rfl
    next leads => exact absurd (Triple.goesTo_iff.mpr leads) goes

/-- The module that triples describe has what they tell. -/
theorem tells_ofTriples : (ofTriples path subject ts).Tells path subject ts where
  path := Graph.path_ofTriples path subject ts
  uri := uri_ofTriples path subject ts
  name := single_ofTriples path subject ts .name (by decide) fun _ _ => rfl
  description := single_ofTriples path subject ts .description (by decide) fun _ _ => rfl
  language := single_ofTriples path subject ts .language (by decide) fun _ _ => rfl
  layer := single_ofTriples path subject ts .layer (by decide) fun _ _ => rfl
  tags := listed_ofTriples path subject ts .tag (by decide) fun _ _ => rfl
  dependencies := dependencies_ofTriples path subject ts
  dependents := Graph.dependents_ofTriples path subject ts
  exports := listed_ofTriples path subject ts .exported (by decide) fun _ _ => rfl
  calls := listed_ofTriples path subject ts .call (by decide) fun _ _ => rfl
  properties := properties_ofTriples path subject ts

end Module

namespace Graph

variable {g g' : Graph} {reader : TripleReader} {root file : Path} {ts : List Triple} {subject : String}

/-- If the triples of a file say of a subject that it is a module, then with the file a module comes
into the graph that has what the triples about the subject tell; and each triple about the subject,
unless it gives its type, tells one thing. -/
theorem ingest_tells (read : reader file = .ok ts) (about : moduleSubject ts = some subject)
    (taken : g.ingest reader root file = .ok g') :
    (∃ m, g'.get? (file.relativeText root) = some m ∧
        m.Tells (file.relativeText root) subject ts) ∧
      ∀ t ∈ ts, t.subject = subject → t.predicate ≠ Block.typePredicate →
        ∃! slot, t ∈ told subject slot ts := by
  constructor
  · refine ⟨_, ?_, Module.tells_ofTriples (file.relativeText root) subject ts⟩
    unfold ingest addTriples addModuleOf at taken
    rw [read] at taken
    dsimp only at taken
    split at taken
    · rw [about] at taken
      cases taken
      rw [get_add, if_pos (path_ofTriples _ _ _).symm]
    · cases taken
  · intro t member own typed
    obtain ⟨slot, goes, only⟩ := t.goesTo_unique
    refine ⟨slot, ?_, fun other inside => only other ?_⟩
    · exact List.mem_filter.mpr ⟨member, by simp [own, typed, goes]⟩
    · have known := (List.mem_filter.mp inside).2
      simp only [decide_eq_true_eq] at known
      exact known.2.2

/-- Triples of a module with two names, one tag twice, and a dependency that is a blank node. -/
def fieldTriples : List Triple :=
  [.mk "#m" Block.typePredicate (.uri "https://schema.codedoc.org/Module"),
    .mk "#m" "c#name" (.literal "old"), .mk "#m" "c#tags" (.literal "x"),
    .mk "#other" "c#name" (.literal "other"),
    .mk "#m" "c#linksTo" (.blank "_:b0" [.mk "_:b0" "c#name" (.literal "b"),
      .mk "_:b0" "c#path" (.literal "./b.py")]),
    .mk "#m" "d/name" (.literal "new"), .mk "#m" "c#tag" (.literal "x"),
    .mk "#m" "c#since" (.literal "1"), .mk "#m" "c#since" (.literal "1")]

/-- The triples above are ingested, and their module tells of them. -/
theorem ingest_tells_of_fieldTriples :
    ∃ g', ingest (fun _ => .ok fieldTriples) ⟨1, ["r"]⟩ { root := "/r" } ⟨1, ["r", "a.py"]⟩ = .ok g' ∧
      moduleSubject fieldTriples = some "#m" ∧
      ∃ m, g'.get? "a.py" = some m ∧ m.name = "new" ∧ m.tags = ["x"] ∧ m.dependencies = ["b.py"] ∧
        m.properties = [("c#since", ["1", "1"])] := by
  have about : moduleSubject fieldTriples = some "#m" := by rfl
  obtain ⟨g', taken⟩ : ∃ g', ingest (fun _ => .ok fieldTriples) ⟨1, ["r"]⟩ { root := "/r" }
      ⟨1, ["r", "a.py"]⟩ = .ok g' := ⟨_, rfl⟩
  obtain ⟨⟨m, found, tells⟩, -⟩ := ingest_tells rfl about taken
  have file : (⟨1, ["r", "a.py"]⟩ : Path).relativeText ⟨1, ["r"]⟩ = "a.py" := by rfl
  rw [file] at found tells
  refine ⟨g', taken, about, m, found, ?_, ?_, ?_, ?_⟩
  · rw [tells.name]
    rfl
  · rw [tells.tags]
    rfl
  · rw [tells.dependencies]
    rfl
  · rw [tells.properties]
    rfl

end Graph

end DocGraph
