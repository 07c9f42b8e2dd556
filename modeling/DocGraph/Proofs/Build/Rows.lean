import DocGraph.Build
import DocGraph.Proofs.Block.RoundTrip
import Mathlib

/-!
# The rows of a triple

A triple is stored as one row for itself and one for each triple within its object, depth first.
`rows_eq` says which these are: the row of a triple within a blank node has the label of the node as
its subject, qualified by the scope, and so has the object of the row that names the node.

The labels of a block count its blank nodes, and the last hash sign of a qualified label stands in
front of the number. So the label tells both the file and the node, whatever the path of the file.
-/

set_option autoImplicit false

namespace DocGraph

/-! ## What is within a node -/

/-- A blank node: its label and its triples. -/
structure BlankNode where
  label : String
  triples : List Triple

mutual

/-- The triples within a node, depth first, each with the label of the blank node that it is in. -/
def Node.within : Node → List (String × Triple)
  | .literal _ => []
  | .uri _ => []
  | .blank label triples => withinAll label triples

/-- The triples of a blank node with what is within them. -/
def withinAll (label : String) : List Triple → List (String × Triple)
  | [] => []
  | .mk s p o :: rest => (label, .mk s p o) :: (o.within ++ withinAll label rest)

end

mutual

/-- The blank nodes of a node, itself first. -/
def Node.blanks : Node → List BlankNode
  | .literal _ => []
  | .uri _ => []
  | .blank label triples => ⟨label, triples⟩ :: blanksOfAll triples

/-- The blank nodes of triples, in the order in which they are opened. -/
def blanksOfAll : List Triple → List BlankNode
  | [] => []
  | .mk _ _ o :: rest => o.blanks ++ blanksOfAll rest

end

/-- A node as it is stored. -/
def Node.stored (scope : String) : Node → String
  | .literal value => value
  | .uri value => value
  | .blank label _ => scopedLabel label scope

/-- The row that a triple itself has under a subject. -/
def Triple.row (scope subject : String) (t : Triple) : Row :=
  ⟨subject, t.predicate, t.object.stored scope⟩

/-- The row of a triple within a blank node. -/
def rowWithin (scope : String) (e : String × Triple) : Row :=
  e.2.row scope (scopedLabel e.1 scope)

mutual

/-- The rows of an object: its own, and those of the triples within it. -/
theorem Node.rowsUnder_eq (scope subject predicate : String) (o : Node) :
    o.rowsUnder scope subject predicate =
      ⟨subject, predicate, o.stored scope⟩ :: o.within.map (rowWithin scope) := by
  match o with
  | .literal value => rfl
  | .uri value => rfl
  | .blank label triples =>
    rw [Node.rowsUnder, rowsOfAll_eq scope label triples]
    rfl

/-- The rows of the triples of a blank node, with those within them. -/
theorem rowsOfAll_eq (scope label : String) (ts : List Triple) :
    rowsOfAll scope (scopedLabel label scope) ts =
      (withinAll label ts).map (rowWithin scope) := by
  match ts with
  | [] => rfl
  | .mk s p o :: rest =>
    rw [rowsOfAll, Triple.rowsUnder, Node.rowsUnder_eq scope _ p o, rowsOfAll_eq scope label rest,
      withinAll, List.map_cons, List.map_append, List.cons_append]
    rfl

end

/-- The rows of a triple are its own and those of the triples within its object, depth first. -/
theorem Triple.rows_eq (scope : String) (t : Triple) :
    t.rows scope = t.row scope t.subject :: t.object.within.map (rowWithin scope) := by
  obtain ⟨s, p, o⟩ := t
  exact o.rowsUnder_eq scope s p

/-! ## One node among others -/

/-- What is within triples comes triple by triple. -/
theorem withinAll_eq (label : String) (ts : List Triple) :
    withinAll label ts = ts.flatMap fun t => (label, t) :: t.object.within := by
  induction ts with
  | nil => rfl
  | cons t rest ih =>
    obtain ⟨s, p, o⟩ := t
    rw [withinAll, ih, List.flatMap_cons]
    rfl

/-- The blank nodes of triples come triple by triple. -/
theorem blanksOfAll_eq (ts : List Triple) :
    blanksOfAll ts = ts.flatMap fun t => t.object.blanks := by
  induction ts with
  | nil => rfl
  | cons t rest ih =>
    obtain ⟨s, p, o⟩ := t
    rw [blanksOfAll, ih, List.flatMap_cons]
    rfl

mutual

/-- The labels of a node are those of its blank nodes. -/
theorem Node.labels_eq (o : Node) : o.labels = o.blanks.map BlankNode.label := by
  match o with
  | .literal value => rfl
  | .uri value => rfl
  | .blank label triples =>
    rw [Node.labels, Node.blanks, labelsOfAll_eq triples]
    rfl

/-- The labels of triples are those of their blank nodes. -/
theorem labelsOfAll_eq (ts : List Triple) :
    labelsOfAll ts = (blanksOfAll ts).map BlankNode.label := by
  match ts with
  | [] => rfl
  | .mk s p o :: rest =>
    rw [labelsOfAll, Triple.labels, blanksOfAll, Node.labels_eq o, labelsOfAll_eq rest,
      List.map_append]

end

/-- What is within the objects of triples. -/
def insideAll (ts : List Triple) : List (String × Triple) :=
  ts.flatMap fun t => t.object.within

mutual

/-- A triple within a node is in one of its blank nodes. -/
theorem Node.label_of_within {o : Node} {e : String × Triple} (h : e ∈ o.within) :
    e.1 ∈ o.blanks.map BlankNode.label := by
  match o with
  | .literal value => cases h
  | .uri value => cases h
  | .blank label triples =>
    rw [Node.within, withinAll_eq] at h
    rw [Node.blanks, List.map_cons, List.mem_cons]
    obtain ⟨t, listed, member⟩ := List.mem_flatMap.mp h
    rcases List.mem_cons.mp member with rfl | deeper
    · exact Or.inl rfl
    · exact Or.inr (label_of_insideAll (List.mem_flatMap.mpr ⟨t, listed, deeper⟩))

/-- What is within the objects of triples is in blank nodes of theirs. -/
theorem label_of_insideAll {ts : List Triple} {e : String × Triple} (h : e ∈ insideAll ts) :
    e.1 ∈ (blanksOfAll ts).map BlankNode.label := by
  match ts with
  | [] => cases h
  | .mk s p o :: rest =>
    rw [blanksOfAll, List.map_append, List.mem_append]
    rcases List.mem_append.mp h with first | later
    · exact Or.inl (Node.label_of_within first)
    · exact Or.inr (label_of_insideAll later)

end

/-- No triple is in a node that is not there. -/
theorem filter_insideAll_eq_nil {ts : List Triple} {label : String}
    (absent : label ∉ (blanksOfAll ts).map BlankNode.label) :
    (insideAll ts).filter (fun e => e.1 = label) = [] := by
  refine List.filter_eq_nil_iff.mpr fun e member same => absent ?_
  rw [← of_decide_eq_true same]
  exact label_of_insideAll member

/-- Of the triples of a blank node, those with its own label are its own. -/
theorem filter_withinAll_self {ts : List Triple} {label : String}
    (absent : label ∉ (blanksOfAll ts).map BlankNode.label) :
    (withinAll label ts).filter (fun e => e.1 = label) = ts.map fun t => (label, t) := by
  induction ts with
  | nil => rfl
  | cons t rest ih =>
    obtain ⟨s, p, o⟩ := t
    rw [blanksOfAll, List.map_append, List.mem_append, not_or] at absent
    have nothing : o.within.filter (fun e => e.1 = label) = [] := by
      refine List.filter_eq_nil_iff.mpr fun e member same => absent.1 ?_
      rw [← of_decide_eq_true same]
      exact Node.label_of_within member
    rw [withinAll, List.filter_cons_of_pos (by simp), List.filter_append, nothing, ih absent.2]
    rfl

/-- Triples with another label are further inside. -/
theorem filter_withinAll_of_ne (ts : List Triple) {label other : String} (differ : label ≠ other) :
    (withinAll label ts).filter (fun e => e.1 = other) =
      (insideAll ts).filter (fun e => e.1 = other) := by
  induction ts with
  | nil => rfl
  | cons t rest ih =>
    obtain ⟨s, p, o⟩ := t
    rw [withinAll, List.filter_cons_of_neg (by simpa using differ), List.filter_append, ih,
      insideAll, insideAll, List.flatMap_cons, List.filter_append]
    rfl

mutual

/-- Of the triples within a node, those with the label of a blank node are the triples of that node.
-/
theorem Node.filter_within {o : Node} (distinct : (o.blanks.map BlankNode.label).Nodup)
    {b : BlankNode} (member : b ∈ o.blanks) :
    o.within.filter (fun e => e.1 = b.label) = b.triples.map fun t => (b.label, t) := by
  match o with
  | .literal value => cases member
  | .uri value => cases member
  | .blank label triples =>
    rw [Node.blanks, List.map_cons, List.nodup_cons] at distinct
    rcases List.mem_cons.mp member with rfl | deeper
    · exact filter_withinAll_self distinct.1
    · have inner := List.mem_map_of_mem (f := BlankNode.label) deeper
      have differ : label ≠ b.label := fun same => distinct.1 (same ▸ inner)
      rw [Node.within, filter_withinAll_of_ne triples differ]
      exact filter_insideAll distinct.2 deeper

/-- If labels tell the blank nodes of triples apart, what is in one of them are its triples. -/
theorem filter_insideAll {ts : List Triple}
    (distinct : ((blanksOfAll ts).map BlankNode.label).Nodup) {b : BlankNode}
    (member : b ∈ blanksOfAll ts) :
    (insideAll ts).filter (fun e => e.1 = b.label) = b.triples.map fun t => (b.label, t) := by
  match ts with
  | [] => cases member
  | .mk s p o :: rest =>
    rw [blanksOfAll, List.map_append] at distinct
    obtain ⟨first, later, apart⟩ := List.nodup_append.mp distinct
    have split : insideAll (.mk s p o :: rest) = o.within ++ insideAll rest := rfl
    rw [split, List.filter_append]
    rcases List.mem_append.mp member with here | there
    · have label := List.mem_map_of_mem (f := BlankNode.label) here
      rw [filter_insideAll_eq_nil fun also => apart _ label _ also rfl, List.append_nil]
      exact Node.filter_within first here
    · have label := List.mem_map_of_mem (f := BlankNode.label) there
      have nothing : o.within.filter (fun e => e.1 = b.label) = [] := by
        refine List.filter_eq_nil_iff.mpr fun e inside same => ?_
        have also := Node.label_of_within inside
        exact apart _ also _ label (of_decide_eq_true same)
      rw [nothing, List.nil_append]
      exact filter_insideAll later there

end

/-- The rows with a subject that no triple itself has are rows of triples in blank nodes. -/
theorem filter_rows {ts : List Triple} (scope : String) {subject : String}
    (other : ∀ t ∈ ts, t.subject ≠ subject) :
    (ts.flatMap (Triple.rows scope)).filter (fun row => row.subject = subject) =
      ((insideAll ts).filter fun e => scopedLabel e.1 scope = subject).map (rowWithin scope) := by
  induction ts with
  | nil => rfl
  | cons t rest ih =>
    obtain ⟨differs, later⟩ := List.forall_mem_cons.mp other
    have head : decide ((t.row scope t.subject).subject = subject) = false :=
      decide_eq_false differs
    rw [List.flatMap_cons, List.filter_append, ih later, t.rows_eq, List.filter_cons, head,
      List.filter_map, insideAll, insideAll, List.flatMap_cons, List.filter_append, List.map_append]
    rfl

/-! ## Labels -/

namespace Block

/-- A label is a prefix and a number in decimal digits. -/
theorem toList_nodeLabel (n : Nat) :
    (nodeLabel n).toList = ['_', ':', 'b'] ++ Nat.toDigits 10 n := by
  have digits : (toString n).toList = Nat.toDigits 10 n := Nat.toList_repr
  rw [nodeLabel, String.toList_append, String.toList_append, digits]
  rfl

/-- Different numbers give different labels. -/
theorem nodeLabel_injective : Function.Injective nodeLabel := by
  intro n m same
  have lists := congrArg String.toList same
  rw [toList_nodeLabel, toList_nodeLabel] at lists
  have digits := List.append_cancel_left lists
  rw [← Nat.toList_repr, ← Nat.toList_repr] at digits
  exact Nat.repr_injective (String.toList_injective digits)

/-- Labels that count are different. -/
theorem Numbered.nodup {n : Nat} {labels : List String} (h : Numbered n labels) : labels.Nodup := by
  rw [h]
  exact (List.nodup_range' 1).map nodeLabel_injective

/-- Labels that are numbered are made from numbers. -/
theorem Numbered.exists_eq {n : Nat} {labels : List String} (h : Numbered n labels)
    {label : String} (member : label ∈ labels) : ∃ k, label = nodeLabel k := by
  rw [h] at member
  obtain ⟨k, -, rfl⟩ := List.mem_map.mp member
  exact ⟨k, rfl⟩

end Block

open Block (nodeLabel)

/-- The label of a node, qualified by a scope. -/
theorem scopedLabel_nodeLabel (n : Nat) {scope : String} (some_ : scope ≠ "") :
    scopedLabel (nodeLabel n) scope = blankMark ++ scope ++ "#b" ++ toString n := by
  have named : scope.isEmpty = false := by simpa using some_
  have cut : blankMark.toList.isPrefixOf? (nodeLabel n).toList =
      some ('b' :: Nat.toDigits 10 n) := by
    rw [Block.toList_nodeLabel]
    rfl
  rw [scopedLabel, named, if_neg Bool.false_ne_true, cut]
  apply String.toList_injective
  simp

/-- What stands behind the last separator is told from what stands in front of it. -/
theorem append_cons_inj_of_not_mem {c : Char} {a b x y : List Char} (hx : c ∉ x) (hy : c ∉ y)
    (same : a ++ c :: x = b ++ c :: y) : a = b ∧ x = y := by
  rcases List.append_eq_append_iff.mp same with ⟨rest, rfl, tail⟩ | ⟨rest, rfl, tail⟩
  · cases rest with
    | nil => simpa using tail
    | cons d rest =>
      obtain ⟨-, rfl⟩ := List.cons_eq_cons.mp tail
      exact absurd (by simp) hx
  · cases rest with
    | nil => simpa using tail.symm
    | cons d rest =>
      obtain ⟨-, rfl⟩ := List.cons_eq_cons.mp tail
      exact absurd (by simp) hy

/-- The qualified label tells the scope and the number. -/
theorem scopedLabel_injective {n m : Nat} {scope other : String} (some_ : scope ≠ "")
    (some' : other ≠ "")
    (same : scopedLabel (nodeLabel n) scope = scopedLabel (nodeLabel m) other) :
    scope = other ∧ n = m := by
  have digits : ∀ k : Nat, '#' ∉ 'b' :: Nat.toDigits 10 k := by
    intro k member
    rcases List.mem_cons.mp member with impossible | digit
    · cases impossible
    · cases Nat.isDigit_of_mem_toDigits (by decide) (by decide) digit
  have text : ∀ k : Nat, (toString k).toList = Nat.toDigits 10 k := fun k => Nat.toList_repr
  have lists := congrArg String.toList same
  rw [scopedLabel_nodeLabel n some_, scopedLabel_nodeLabel m some'] at lists
  have split : scope.toList ++ '#' :: 'b' :: Nat.toDigits 10 n =
      other.toList ++ '#' :: 'b' :: Nat.toDigits 10 m := by
    simpa [text] using lists
  obtain ⟨scopes, behind⟩ := append_cons_inj_of_not_mem (digits n) (digits m) split
  have numbers : Nat.toDigits 10 n = Nat.toDigits 10 m := (List.cons_eq_cons.mp behind).2
  rw [← Nat.toList_repr, ← Nat.toList_repr] at numbers
  exact ⟨String.toList_injective scopes, Nat.repr_injective (String.toList_injective numbers)⟩

end DocGraph
