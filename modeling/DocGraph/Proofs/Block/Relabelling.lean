import DocGraph.Proofs.Build.Rows

/-!
# Trees that are read later

What a tree stands for depends on where it is read in two ways: the table says what its prefixes stand
for, and its blank nodes are numbered behind those that were opened before. `statementTriples_later`
says that nothing else does. If the tables agree about the prefixes of a tree, and it is read behind
more blank nodes, its triples are the same but for the labels of its blank nodes, whose numbers are
higher by as many.

Labels are texts, and a reference may be the same text as a label. It is not changed: `Node.relabel`
changes the labels of nodes, and with them the subjects of the triples in the node.
-/

set_option autoImplicit false

namespace DocGraph

/-! ## Other labels -/

mutual

/-- A triple with its subject renamed, and the labels of its blank nodes by a renaming of their own. -/
def Triple.relabel (name label : String → String) : Triple → Triple
  | .mk subject predicate object => .mk (name subject) predicate (object.relabel label)

/-- A node with other labels, which the labels that it has are mapped to. -/
def Node.relabel (label : String → String) : Node → Node
  | .literal value => .literal value
  | .uri value => .uri value
  | .blank old triples => .blank (label old) (relabelAll label triples)

/-- The triples of a blank node have its label as their subject. -/
def relabelAll (label : String → String) : List Triple → List Triple
  | [] => []
  | t :: rest => t.relabel label label :: relabelAll label rest

end

/-- To relabel triples is to relabel each of them. -/
theorem relabelAll_eq_map (label : String → String) (ts : List Triple) :
    relabelAll label ts = ts.map (Triple.relabel label label) := by
  induction ts with
  | nil => rfl
  | cons t rest ih => rw [relabelAll, ih, List.map_cons]

namespace Block

/-- The label whose number is higher by so much. -/
def laterLabel (k : Nat) (label : String) : String :=
  nodeLabel (Nat.ofDigitChars 10 (label.toList.drop 3) 0 + k)

/-- The label of a number becomes that of a later number. -/
theorem laterLabel_nodeLabel (k n : Nat) : laterLabel k (nodeLabel n) = nodeLabel (n + k) := by
  have digits : (nodeLabel n).toList.drop 3 = Nat.toDigits 10 n := by
    rw [toList_nodeLabel]
    rfl
  rw [laterLabel, digits, Nat.ofDigitChars_ten_toDigits]

/-! ## How many labels a tree has -/

variable (table : PrefixTable)

mutual

/-- An object has as many labels as its tokens open nodes. -/
theorem Object.labels_length (o : Object) (n : Nat) :
    (o.meaning table n).labels.length = opened o.lexemes := by
  match o with
  | .plain p =>
    rw [Object.meaning, Object.lexemes, opened_cons_of_ne p.lexeme_ne]
    rcases p with (_ | _) | _ | _ <;> rfl
  | .emptyNode =>
    rw [Object.meaning, Object.lexemes]
    rfl
  | .node g =>
    have inner := Groups.labels_length g (nodeLabel n) (n + 1)
    simp [Object.meaning, Object.lexemes, Node.labels, inner, opened]

/-- The triples of objects have as many labels as their tokens open nodes. -/
theorem Objects.labels_length (os : Objects) (subject predicate : String) (n : Nat) :
    (labelsOfAll (os.triples table subject predicate n)).length = opened os.lexemes := by
  match os with
  | .one o =>
    have only := Object.labels_length o n
    simp [Objects.triples, Objects.lexemes, labelsOfAll, Triple.labels, only]
  | .more o rest =>
    have first := Object.labels_length o n
    have others := Objects.labels_length rest subject predicate (n + opened o.lexemes)
    rw [Objects.triples, Objects.lexemes, opened_append, opened_cons_of_ne (by simp), labelsOfAll,
      List.length_append, Triple.labels, first, others]

/-- The triples of groups have as many labels as their tokens open nodes. -/
theorem Groups.labels_length (g : Groups) (subject : String) (n : Nat) :
    (labelsOfAll (g.triples table subject n)).length = opened g.lexemes := by
  match g with
  | .last v os k =>
    have objects := Objects.labels_length os subject (v.meaning table) n
    rw [Groups.triples, Groups.lexemes, opened_cons_of_ne v.lexeme_ne.2.2.2.2, opened_append,
      opened_replicate k (by simp), objects, Nat.add_zero]
  | .more v os k rest =>
    have objects := Objects.labels_length os subject (v.meaning table) n
    have others := Groups.labels_length rest subject (n + opened os.lexemes)
    rw [Groups.triples, Groups.lexemes, opened_cons_of_ne v.lexeme_ne.2.2.2.2, opened_append,
      opened_append, opened_replicate (k + 1) (by simp), labelsOfAll_append, List.length_append,
      objects, others, Nat.zero_add]

end

/-- The triples of statements have as many labels as their tokens open nodes. -/
theorem statementTriples_labels_length (ss : List Statement) (n : Nat) :
    (labelsOfAll (statementTriples table n ss)).length = opened (ss.flatMap Statement.lexemes) := by
  induction ss generalizing n with
  | nil => rfl
  | cons s rest ih =>
    have groups := Groups.labels_length table s.groups (s.subject.meaning table) n
    have count : opened s.lexemes = opened s.groups.lexemes :=
      opened_cons_of_ne s.subject.lexeme_ne.2 _
    rw [statementTriples, labelsOfAll_append, List.length_append, ih, List.flatMap_cons,
      opened_append, count, Statement.triples, groups]

/-! ## Tables that agree -/

variable {table} {table' : PrefixTable}

/-- Two tables give the same for the prefixed tokens of a list. -/
def ExpandAlike (table table' : PrefixTable) (lexemes : List Lexeme) : Prop :=
  ∀ text, .prefixed text ∈ lexemes → table.expand text = table'.expand text

/-- Tables that agree on some tokens agree on fewer. -/
theorem ExpandAlike.of_subset {a b : List Lexeme} (h : ExpandAlike table table' b) (part : a ⊆ b) :
    ExpandAlike table table' a :=
  fun text member => h text (part member)

/-- A reference stands for the same in tables that agree on it. -/
theorem Reference.meaning_alike (s : Reference) (h : ExpandAlike table table' [s.lexeme]) :
    s.meaning table' = s.meaning table := by
  cases s with
  | uri text => rfl
  | prefixed text =>
    rw [meaning_prefixed, meaning_prefixed]
    exact (h text (by simp [Reference.lexeme])).symm

/-- A verb stands for the same in tables that agree on it. -/
theorem Verb.meaning_alike (v : Verb) (h : ExpandAlike table table' [v.lexeme]) :
    v.meaning table' = v.meaning table := by
  cases v with
  | type => rfl
  | reference r => exact r.meaning_alike h

/-- A single token stands for the same in tables that agree on it, and has no labels. -/
theorem Plain.meaning_later (p : Plain) (label : String → String)
    (h : ExpandAlike table table' [p.lexeme]) :
    p.meaning table' = (p.meaning table).relabel label := by
  cases p with
  | reference r => exact congrArg Node.uri (r.meaning_alike h)
  | quoted text => rfl
  | word text => rfl

/-! ## The triples of a tree that is read later -/

mutual

/-- An object that is read later stands for the same, with later labels. -/
theorem Object.meaning_later (o : Object) (n k : Nat) (h : ExpandAlike table table' o.lexemes) :
    o.meaning table' (n + k) = (o.meaning table n).relabel (laterLabel k) := by
  match o with
  | .plain p =>
    rw [Object.lexemes] at h
    rw [Object.meaning, Object.meaning]
    exact p.meaning_later (laterLabel k) h
  | .emptyNode =>
    rw [Object.meaning, Object.meaning, Node.relabel, laterLabel_nodeLabel, relabelAll]
  | .node g =>
    rw [Object.lexemes] at h
    have inner := Groups.triples_later g (laterLabel k) (nodeLabel n) (n + 1) k
      (h.of_subset (by simp))
    rw [laterLabel_nodeLabel] at inner
    rw [Object.meaning, Object.meaning, Node.relabel, laterLabel_nodeLabel, relabelAll_eq_map,
      ← inner, Nat.add_right_comm]

/-- Objects that are read later stand for the same triples, with later labels. -/
theorem Objects.triples_later (os : Objects) (name : String → String) (subject predicate : String)
    (n k : Nat) (h : ExpandAlike table table' os.lexemes) :
    os.triples table' (name subject) predicate (n + k) =
      (os.triples table subject predicate n).map (Triple.relabel name (laterLabel k)) := by
  match os with
  | .one o =>
    rw [Objects.lexemes] at h
    have only := Object.meaning_later o n k h
    rw [Objects.triples, Objects.triples, only]
    rfl
  | .more o rest =>
    rw [Objects.lexemes] at h
    have first := Object.meaning_later o n k (h.of_subset (by simp))
    have others := Objects.triples_later rest name subject predicate (n + opened o.lexemes) k
      (h.of_subset (by simp))
    rw [Nat.add_right_comm] at others
    rw [Objects.triples, Objects.triples, List.map_cons, ← others, first]
    rfl

/-- Groups that are read later stand for the same triples, with later labels. -/
theorem Groups.triples_later (g : Groups) (name : String → String) (subject : String) (n k : Nat)
    (h : ExpandAlike table table' g.lexemes) :
    g.triples table' (name subject) (n + k) =
      (g.triples table subject n).map (Triple.relabel name (laterLabel k)) := by
  match g with
  | .last v os _ =>
    rw [Groups.lexemes] at h
    have verb := v.meaning_alike (h.of_subset (by simp))
    have objects := Objects.triples_later os name subject (v.meaning table) n k
      (h.of_subset (by simp))
    rw [Groups.triples, Groups.triples, verb, objects]
  | .more v os _ rest =>
    rw [Groups.lexemes] at h
    have verb := v.meaning_alike (h.of_subset (by simp))
    have objects := Objects.triples_later os name subject (v.meaning table) n k
      (h.of_subset (by simp))
    have others := Groups.triples_later rest name subject (n + opened os.lexemes) k
      (h.of_subset fun l member => by simp [member])
    rw [Nat.add_right_comm] at others
    rw [Groups.triples, Groups.triples, List.map_append, verb, objects, others]

end

/-- Statements that are read behind more blank nodes have the same triples, with later labels. -/
theorem statementTriples_later (ss : List Statement) (n k : Nat)
    (h : ExpandAlike table table' (ss.flatMap Statement.lexemes)) :
    statementTriples table' (n + k) ss =
      (statementTriples table n ss).map (Triple.relabel id (laterLabel k)) := by
  induction ss generalizing n with
  | nil => rfl
  | cons s rest ih =>
    rw [List.flatMap_cons] at h
    have subject := s.subject.meaning_alike (h.of_subset (by simp [Statement.lexemes]))
    have groups := Groups.triples_later s.groups id (s.subject.meaning table) n k
      (h.of_subset (by simp [Statement.lexemes]))
    have others := ih (n + opened s.lexemes) (h.of_subset (by simp))
    rw [id_eq] at groups
    rw [Nat.add_right_comm] at others
    rw [statementTriples, statementTriples, List.map_append, ← others, Statement.triples,
      Statement.triples, subject, groups]

/-- Tables that agree give the same triples. -/
theorem statementTriples_alike (ss : List Statement) (n : Nat)
    (h : ExpandAlike table table' (ss.flatMap Statement.lexemes)) :
    statementTriples table' n ss = statementTriples table n ss := by
  have other := statementTriples_later ss n 0 h
  have itself : ExpandAlike table table (ss.flatMap Statement.lexemes) := fun _ _ => rfl
  have same := statementTriples_later ss n 0 itself
  exact other.trans same.symm

end Block

end DocGraph
