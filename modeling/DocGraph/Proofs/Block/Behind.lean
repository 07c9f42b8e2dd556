import DocGraph.Proofs.Block.Blame
import DocGraph.Proofs.Block.Layout
import DocGraph.Proofs.Block.Relabelling

/-!
# Tokens behind other tokens

Where tokens end a statement, nothing of them is left open, and what stands behind them is read as it is
by itself. Three things are different then. The lines have higher numbers, blank nodes are numbered behind
those that are there already, and the prefixes may be those of another table. `statements_append` says
what this does to the triples, and `statements_append_error` what it does to errors, on which the table
has no influence: whether a token is accepted does not depend on what it stands for.

`Stands` relates a reading behind other tokens to the reading by itself. It is kept by each token, as
long as both go on; and if one of them stops with an error, so does the other one.
-/

set_option autoImplicit false

namespace DocGraph.Block

variable {table table' : PrefixTable}

/-! ## Later lines -/

/-- A token on a line that is so many lines later. -/
def Token.moved (d : Int) (t : Token) : Token :=
  ⟨t.lexeme, t.line + d⟩

/-- An error that blames a line that is so many lines later. -/
def GrammarError.moved (d : Int) (e : GrammarError) : GrammarError :=
  ⟨e.fault, e.line.map (· + d)⟩

/-! ## Errors behind another block -/

/-- What may come next is the same, for whatever predicate. -/
inductive SameKind : Awaiting → Awaiting → Prop
  | statement : SameKind .statement .statement
  | predicate : SameKind .predicate .predicate
  | object (predicate predicate' : String) : SameKind (.object predicate) (.object predicate')
  | more (predicate predicate' : String) : SameKind (.more predicate) (.more predicate')
  | group : SameKind .group .group
  | node : SameKind .node .node

/-- Both go on, and what they lead to is related, or both stop with an error, the second one so many
lines later. -/
def Follows {α : Type} (d : Int) (R : α → α → Prop) :
    Except GrammarError α → Except GrammarError α → Prop :=
  InStep (fun e e' => e' = e.moved d) R

namespace Reader

/-- Readers that accept the same tokens, of which the second one is so many lines later. -/
structure Stands (d : Int) (r r' : Reader) : Prop where
  awaiting : SameKind r.awaiting r'.awaiting
  enclosing : List.Forall₂ (fun n n' => n'.line = n.line + d) r.enclosing r'.enclosing

variable {r r' : Reader} {d : Int}

/-- A subject is accepted by both readers or by neither. -/
theorem readSubject_follows (h : Stands d r r') (t : Token) :
    Follows d (Stands d) (blame t (r.readSubject table t.lexeme))
      (blame (t.moved d) (r'.readSubject table' t.lexeme)) := by
  unfold readSubject
  cases t.lexeme with
  | uri text => exact ⟨.predicate, h.enclosing⟩
  | prefixed text => exact ⟨.predicate, h.enclosing⟩
  | _ => rfl

/-- A predicate is accepted by both readers or by neither. -/
theorem readPredicate_follows (h : Stands d r r') (t : Token) :
    Follows d (Stands d) (blame t (r.readPredicate table t.lexeme))
      (blame (t.moved d) (r'.readPredicate table' t.lexeme)) := by
  unfold readPredicate
  cases t.lexeme with
  | uri text => exact ⟨.object _ _, h.enclosing⟩
  | prefixed text => exact ⟨.object _ _, h.enclosing⟩
  | word text =>
    by_cases a : text = "a"
    · subst a
      exact ⟨.object _ _, h.enclosing⟩
    · simp [predicateOf, a, blame, bind, Except.bind, Follows, InStep, GrammarError.moved, Token.moved]
  | _ => rfl

/-- An object is accepted by both readers or by neither. -/
theorem readObject_follows (h : Stands d r r') (predicate predicate' : String) (t : Token) :
    Follows d (Stands d) (blame t (r.readObject table predicate t))
      (blame (t.moved d) (r'.readObject table' predicate' (t.moved d))) := by
  unfold readObject Token.moved
  dsimp only
  cases t.lexeme with
  | openBracket => exact ⟨.node, .cons rfl h.enclosing⟩
  | uri text => exact ⟨.more _ _, h.enclosing⟩
  | prefixed text => exact ⟨.more _ _, h.enclosing⟩
  | quoted text => exact ⟨.more _ _, h.enclosing⟩
  | word text => exact ⟨.more _ _, h.enclosing⟩
  | _ => rfl

/-- The end of a list is accepted by both readers or by neither. -/
theorem endList_follows (h : Stands d r r') (t : Token) :
    Follows d (Stands d) (r.endList t) (r'.endList (t.moved d)) := by
  unfold endList Token.moved
  dsimp only
  rcases enclosing_cases h.enclosing with ⟨empty, empty'⟩ |
    ⟨n, outer, n', outer', inside, inside', top, below⟩
  · rw [empty, empty']
    cases t.lexeme with
    | stop => exact ⟨.statement, .nil⟩
    | _ => rfl
  · rw [inside, inside']
    cases t.lexeme with
    | closeBracket => exact ⟨.more _ _, below⟩
    | _ => simp [Follows, InStep, GrammarError.moved, top]

/-- A token is accepted by both readers or by neither. -/
theorem step_follows (h : Stands d r r') (t : Token) :
    Follows d (Stands d) (r.step table t) (r'.step table' (t.moved d)) := by
  have lexeme : (t.moved d).lexeme = t.lexeme := rfl
  have kind := h.awaiting
  unfold step
  generalize r.awaiting = w at kind ⊢
  generalize r'.awaiting = w' at kind ⊢
  cases kind with
  | statement =>
    simp only [lexeme]
    split
    · exact h
    · exact readSubject_follows h t
  | predicate => exact readPredicate_follows h t
  | object predicate predicate' => exact readObject_follows h predicate predicate' t
  | more predicate predicate' =>
    simp only [lexeme]
    cases t.lexeme with
    | comma => exact ⟨.object _ _, h.enclosing⟩
    | semicolon => exact ⟨.group, h.enclosing⟩
    | _ => exact endList_follows h t
  | group =>
    simp only [lexeme, ← closes_eq h.enclosing]
    split
    · exact h
    · split
      · exact endList_follows h t
      · exact readPredicate_follows h t
  | node =>
    simp only [lexeme]
    split
    · exact endList_follows h t
    · exact readPredicate_follows h t

/-- Tokens are accepted by both readers or by neither. -/
theorem run_follows (h : Stands d r r') (tokens : List Token) :
    Follows d (Stands d) (r.run table tokens) (r'.run table' (tokens.map (Token.moved d))) := by
  have related : List.Forall₂ (fun t t' => t' = Token.moved d t) tokens
      (tokens.map (Token.moved d)) :=
    List.forall₂_map_right_iff.mpr (List.forall₂_same.mpr fun _ _ => rfl)
  exact run_inStep (fun {r r' t t'} h moved => moved ▸ step_follows h t) h related

/-- The end is accepted by both readers or by neither. -/
theorem finish_follows (h : Stands d r r') {line line' : Option Int}
    (later : line' = line.map (· + d)) :
    Follows d (fun _ _ => True) (r.finish line) (r'.finish line') := by
  have kind := h.awaiting
  unfold finish
  subst later
  generalize r.awaiting = w at kind ⊢
  generalize r'.awaiting = w' at kind ⊢
  rcases enclosing_cases h.enclosing with ⟨empty, empty'⟩ |
    ⟨n, outer, n', outer', inside, inside', top, -⟩
  · rw [empty, empty']
    cases kind <;> trivial
  · rw [inside, inside']
    cases kind <;> simp [Follows, InStep, GrammarError.moved, top]

end Reader

/-! ## Statements behind statements -/

mutual

/-- There is no full stop in an object. -/
theorem Object.stop_not_mem (o : Object) : Lexeme.stop ∉ o.lexemes := by
  match o with
  | .plain p =>
    rcases p with (_ | _) | _ | _ <;> simp [Object.lexemes, Plain.lexeme, Reference.lexeme]
  | .emptyNode => simp [Object.lexemes]
  | .node g => simpa [Object.lexemes] using Groups.stop_not_mem g

/-- There is no full stop in objects. -/
theorem Objects.stop_not_mem (os : Objects) : Lexeme.stop ∉ os.lexemes := by
  match os with
  | .one o => simpa [Objects.lexemes] using Object.stop_not_mem o
  | .more o rest =>
    have first := Object.stop_not_mem o
    have others := Objects.stop_not_mem rest
    simp [Objects.lexemes, first, others]

/-- There is no full stop in groups. -/
theorem Groups.stop_not_mem (g : Groups) : Lexeme.stop ∉ g.lexemes := by
  match g with
  | .last v os k =>
    have objects := Objects.stop_not_mem os
    simp [Groups.lexemes, objects, v.lexeme_ne.2.2.1.symm]
  | .more v os k rest =>
    have objects := Objects.stop_not_mem os
    have others := Groups.stop_not_mem rest
    simp [Groups.lexemes, objects, others, v.lexeme_ne.2.2.1.symm]

end

/-- A statement that is not ended has no full stop, so it does not end with one. -/
theorem BlockTree.last_of_stop {b : BlockTree} (h : b.lexemes.getLast? = some .stop) :
    b.last = none := by
  cases last : b.last with
  | none => rfl
  | some s =>
    have ends : s.lexemes.getLast? = some .stop := by
      have some_ : s.lexemes ≠ [] := by simp [Statement.lexemes]
      rw [BlockTree.lexemes, last, statementLexemes, Option.elim_some, ← List.append_assoc,
        List.getLast?_append_of_ne_nil _ some_] at h
      exact h
    rcases List.mem_cons.mp (List.mem_of_getLast? ends) with subject | inside
    · exact absurd subject.symm s.subject.lexeme_ne.1
    · exact absurd inside s.groups.stop_not_mem

namespace Reader

variable {r : Reader}

variable (table) in
/-- Statements that are each ended are read one after the other, and leave nothing open. -/
theorem takes_ended (ended : List (Statement × Nat)) (h : r.awaiting = .statement)
    (outermost : r.enclosing = []) :
    ∃ r', Takes table r (statementLexemes ended none) r' ∧ r'.awaiting = .statement ∧
      r'.enclosing = [] ∧
      r'.current.triples.reverse =
        r.current.triples.reverse ++ statementTriples table r.nodes (ended.map Prod.fst) ∧
      r'.nodes = r.nodes + opened ((ended.map Prod.fst).flatMap Statement.lexemes) := by
  induction ended generalizing r with
  | nil =>
    refine ⟨r, ?_, h, outermost, by simp [statementTriples], rfl⟩
    intro tokens same
    rw [List.map_eq_nil_iff.mp same, run]
  | cons e rest ih =>
    obtain ⟨s, k⟩ := e
    obtain ⟨r₁, read, ending, same, triples, nodes⟩ := takes_statement table s h
    have stop := @takes_one table _ _ _ fun line => step_stop line ending (same.trans outermost)
    have stops := takes_stops table (r := r₁.advance [] .statement 0) k rfl
    obtain ⟨r', others, awaiting, enclosing, triples', nodes'⟩ :=
      ih (r := r₁.advance [] .statement 0) rfl (same.trans outermost)
    refine ⟨r', ?_, awaiting, enclosing, ?_, ?_⟩
    · rw [statementLexemes_cons, List.replicate_succ]
      exact read.append (stop.append (stops.append others))
    · simp [triples', advance, triples, nodes, statementTriples]
    · simp [nodes', nodes, opened_append, Nat.add_assoc]

end Reader

/-! ## What is read -/

/-- What is left of tokens that were read up to a full stop: their triples, and how many blank nodes
they opened. -/
theorem exists_ended {front : List Token} {ts : List Triple}
    (reads : statements table front = .ok ts)
    (stopped : (front.map Token.lexeme).getLast? = some .stop) (table' : PrefixTable) :
    ∃ r, Reader.Takes table' .start (front.map Token.lexeme) r ∧ r.awaiting = .statement ∧
      r.enclosing = [] ∧ r.nodes = (labelsOfAll ts).length ∧
      (ExpandAlike table table' (front.map Token.lexeme) → r.current.triples.reverse = ts) := by
  obtain ⟨⟨stops, ended, last⟩, same, rfl⟩ := exists_tree_of_statements reads
  rw [← same] at stopped ⊢
  obtain rfl : last = none := BlockTree.last_of_stop stopped
  obtain ⟨r, taken, awaiting, enclosing, triples, nodes⟩ :=
    Reader.takes_ended table' (r := .start) ended rfl rfl
  have all : BlockTree.statements ⟨stops, ended, none⟩ = ended.map Prod.fst := by
    simp [BlockTree.statements]
  refine ⟨r, (Reader.takes_stops table' stops rfl).append taken, awaiting, enclosing, ?_, ?_⟩
  · rw [nodes, BlockTree.triples, all, statementTriples_labels_length]
    exact Nat.zero_add _
  · intro alike
    have among := alike.of_subset (BlockTree.statements_subset _)
    rw [all] at among
    rw [triples, BlockTree.triples, all]
    exact statementTriples_alike _ 0 among

/-- Behind tokens that end a statement, what is read by itself is read with later labels. -/
theorem statements_append {front rest rest' : List Token} {ts ts' : List Triple}
    (reads : statements table front = .ok ts)
    (stopped : (front.map Token.lexeme).getLast? = some .stop)
    {own whole : PrefixTable} (reads' : statements own rest = .ok ts')
    (same : rest'.map Token.lexeme = rest.map Token.lexeme)
    (alike : ExpandAlike table whole (front.map Token.lexeme))
    (alike' : ExpandAlike own whole (rest.map Token.lexeme)) :
    statements whole (front ++ rest') =
      .ok (ts ++ ts'.map (Triple.relabel id (laterLabel (labelsOfAll ts).length))) := by
  obtain ⟨r, taken, awaiting, enclosing, nodes, triples⟩ := exists_ended reads stopped whole
  obtain ⟨b, lexemes, rfl⟩ := exists_tree_of_statements reads'
  rw [← lexemes] at alike' same
  have stops := Reader.takes_stops whole b.stops awaiting
  have yields := stops.yields (Reader.yields_statements b.ended b.last awaiting enclosing)
  obtain ⟨final, read, finished⟩ := yields rest' same
  have later := statementTriples_later b.statements 0 r.nodes
    (alike'.of_subset b.statements_subset)
  rw [Nat.zero_add, nodes] at later
  rw [statements, Reader.run_append (taken front rfl), read]
  refine (finished _).trans ?_
  rw [triples alike, nodes]
  exact congrArg (fun more => Except.ok (ts ++ more)) later

/-- Behind tokens that end a statement, an error is the same, on its line. -/
theorem statements_append_error {front rest : List Token} {ts : List Triple} {e : GrammarError}
    (reads : statements table front = .ok ts)
    (stopped : (front.map Token.lexeme).getLast? = some .stop)
    {own : PrefixTable} (fails : statements own rest = .error e) (whole : PrefixTable) (d : Int) :
    statements whole (front ++ rest.map (Token.moved d)) = .error (e.moved d) := by
  obtain ⟨r, taken, awaiting, enclosing, -, -⟩ := exists_ended reads stopped whole
  have start : Reader.Stands d .start r := by
    refine ⟨?_, by rw [enclosing]; exact .nil⟩
    rw [awaiting]
    exact .statement
  have some_ : rest ≠ [] := by
    rintro rfl
    cases fails
  have last : (front ++ rest.map (Token.moved d)).getLast?.map Token.line =
      (rest.getLast?.map Token.line).map (· + d) := by
    rw [List.getLast?_append_of_ne_nil _ (by simpa using some_), List.getLast?_map, Option.map_map,
      Option.map_map]
    rfl
  have both : Follows d (fun _ _ => True) (statements own rest)
      (statements whole (front ++ rest.map (Token.moved d))) := by
    rw [statements, statements, Reader.run_append (taken front rfl)]
    exact (Reader.run_follows start rest).bind fun a a' next => Reader.finish_follows next last
  rw [fails] at both
  cases result : statements whole (front ++ rest.map (Token.moved d)) with
  | ok ts =>
    rw [result] at both
    cases both
  | error e' =>
    rw [result] at both
    rw [both]

end DocGraph.Block
