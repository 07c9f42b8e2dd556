import DocGraph.Proofs.Block.Grammar
import DocGraph.Proofs.Fallible

/-!
# Reading the tokens of a tree

The reading of a block takes one token at a time and keeps what is open on a stack. The trees of the
grammar keep nothing. `Groups.adds` and its companions, by induction on the tree, say what the tokens
of a tree do to a reader: its triples come to the list that is being read, and what may stand behind
it is awaited. For a whole block, `statements_of_lexemes` gives the triples of its tree.

The lines that the tokens stand on have no say in this.
-/

set_option autoImplicit false

namespace DocGraph.Block

variable {table : PrefixTable} {r r' r'' : Reader}

/-- The nodes that two lists of tokens open add up. -/
theorem opened_append (a b : List Lexeme) : opened (a ++ b) = opened a + opened b :=
  List.count_append

/-- Other signs open no nodes. -/
theorem opened_replicate (k : Nat) {l : Lexeme} (h : l ≠ .openBracket) :
    opened (List.replicate k l) = 0 := by
  rw [opened, List.count_replicate]
  simp [h]

/-- A token that is no bracket opens no node. -/
theorem opened_cons_of_ne {l : Lexeme} (h : l ≠ .openBracket) (rest : List Lexeme) :
    opened (l :: rest) = opened rest :=
  List.count_cons_of_ne h

namespace Reader

/-- Tokens like these lead from one reader to another, whatever lines they stand on. -/
def Takes (table : PrefixTable) (r : Reader) (lexemes : List Lexeme) (r' : Reader) : Prop :=
  ∀ tokens : List Token, tokens.map Token.lexeme = lexemes → r.run table tokens = .ok r'

/-- A reader with more triples in its list, more nodes opened, and something else awaited. -/
def advance (r : Reader) (read : List Triple) (awaiting : Awaiting) (nodes : Nat) : Reader :=
  { current := ⟨r.current.subject, read.reverse ++ r.current.triples⟩
    enclosing := r.enclosing
    awaiting
    nodes := r.nodes + nodes }

/-- The subject stays the same. -/
@[simp] theorem advance_subject (read : List Triple) (w : Awaiting) (n : Nat) :
    (r.advance read w n).current.subject = r.current.subject := rfl

/-- The same nodes stay open. -/
@[simp] theorem advance_enclosing (read : List Triple) (w : Awaiting) (n : Nat) :
    (r.advance read w n).enclosing = r.enclosing := rfl

/-- Something else is awaited. -/
@[simp] theorem advance_awaiting (read : List Triple) (w : Awaiting) (n : Nat) :
    (r.advance read w n).awaiting = w := rfl

/-- More nodes are opened. -/
@[simp] theorem advance_nodes (read : List Triple) (w : Awaiting) (n : Nat) :
    (r.advance read w n).nodes = r.nodes + n := rfl

/-- To go on twice is to go on once with all of it. -/
theorem advance_advance (read read' : List Triple) (w w' : Awaiting) (n n' : Nat) :
    (r.advance read w n).advance read' w' n' = r.advance (read ++ read') w' (n + n') := by
  simp [advance, Nat.add_assoc]

/-- Tokens like these add triples to the list that is being read, and then something is awaited. -/
def Adds (table : PrefixTable) (r : Reader) (lexemes : List Lexeme) (read : List Triple)
    (w : Awaiting) : Prop :=
  Takes table r lexemes (r.advance read w (opened lexemes))

variable {a b : List Lexeme} {read read' : List Triple} {w w' : Awaiting}

/-- Reading goes on with what follows. -/
theorem run_append {front rest : List Token} (h : r.run table front = .ok r') :
    r.run table (front ++ rest) = r'.run table rest := by
  induction front generalizing r with
  | nil =>
    cases h
    rfl
  | cons t front ih =>
    rw [run_cons] at h
    obtain ⟨next, taken, h⟩ := bind_eq_ok_iff.mp h
    rw [List.cons_append, run_cons, taken]
    exact ih h

/-- Tokens that are taken one after the other are taken together. -/
theorem Takes.append (first : Takes table r a r') (second : Takes table r' b r'') :
    Takes table r (a ++ b) r'' := by
  intro tokens h
  obtain ⟨front, rest, rfl, hfront, hrest⟩ := List.map_eq_append_iff.mp h
  rw [run_append (first front hfront)]
  exact second rest hrest

/-- A token that is taken on every line is taken. -/
theorem takes_one {l : Lexeme} (h : ∀ line, r.step table ⟨l, line⟩ = .ok r') :
    Takes table r [l] r' := by
  intro tokens same
  obtain ⟨t, rfl, rfl⟩ := List.map_eq_singleton_iff.mp same
  have taken : r.step table t = .ok r' := h t.line
  simp only [run, taken]

/-- Without tokens nothing is added. -/
theorem adds_nothing : Adds table r [] [] r.awaiting := by
  intro tokens h
  rw [List.map_eq_nil_iff.mp h, run]
  rfl

/-- A token that is no bracket adds what a step adds. -/
theorem adds_one {l : Lexeme} (plain : l ≠ .openBracket)
    (h : ∀ line, r.step table ⟨l, line⟩ = .ok (r.advance read w 0)) :
    Adds table r [l] read w := by
  have none_ : opened [l] = 0 := opened_cons_of_ne plain []
  rw [Adds, none_]
  exact takes_one h

/-- What tokens add one after the other they add together. -/
theorem Adds.append (first : Adds table r a read w)
    (second : Adds table (r.advance read w (opened a)) b read' w') :
    Adds table r (a ++ b) (read ++ read') w' := by
  have both := Takes.append first second
  rw [advance_advance, ← opened_append] at both
  exact both

/-- A token that adds nothing may stand in front of others. -/
theorem Adds.cons {l : Lexeme} (plain : l ≠ .openBracket)
    (first : ∀ line, r.step table ⟨l, line⟩ = .ok (r.advance [] w 0))
    (rest : Adds table (r.advance [] w 0) b read w') : Adds table r (l :: b) read w' := by
  have none_ : opened [l] = 0 := opened_cons_of_ne plain []
  exact Adds.append (adds_one plain first) (none_ ▸ rest)

/-! ## Single tokens -/

end Reader

/-- Whether a verb may come next. -/
def Awaiting.Verb (w : Awaiting) : Prop :=
  w = .predicate ∨ w = .group ∨ w = .node

/-- Whether the groups may be over. -/
def Awaiting.End (w : Awaiting) : Prop :=
  (∃ predicate, w = .more predicate) ∨ w = .group

/-- A reference is taken as the subject that it stands for. -/
theorem subjectOf_lexeme (s : Reference) : subjectOf table s.lexeme = .ok (s.meaning table) := by
  cases s with
  | uri text => rfl
  | prefixed text => exact congrArg Except.ok (table.expand_eq text)

/-- A verb is taken as the predicate that it stands for. -/
theorem predicateOf_lexeme (v : Verb) : predicateOf table v.lexeme = .ok (v.meaning table) := by
  rcases v with _ | (text | text)
  · rfl
  · rfl
  · exact congrArg Except.ok (table.expand_eq text)

/-- A single token is taken as the object that it stands for. -/
theorem objectOf_lexeme (p : Plain) : objectOf table p.lexeme = .ok (p.meaning table) := by
  rcases p with (text | text) | text | text
  · rfl
  · exact congrArg (Except.ok ∘ Node.uri) (table.expand_eq text)
  · rfl
  · rfl

namespace Reader

/-- A reference is taken as the subject of a statement. -/
theorem step_subject (s : Reference) (line : Int) (h : r.awaiting = .statement) :
    r.step table ⟨s.lexeme, line⟩ =
      .ok { r with current := { r.current with subject := s.meaning table }
                   awaiting := .predicate } := by
  rw [step, h]
  simp only [s.lexeme_ne.1, if_false, readSubject, subjectOf_lexeme]
  rfl

/-- A verb is taken as a predicate wherever one may come. -/
theorem step_verb (v : Verb) (line : Int) (h : r.awaiting.Verb) :
    r.step table ⟨v.lexeme, line⟩ = .ok (r.advance [] (.object (v.meaning table)) 0) := by
  have taken : blame ⟨v.lexeme, line⟩ (r.readPredicate table v.lexeme) =
      .ok (r.advance [] (.object (v.meaning table)) 0) := by
    rw [readPredicate, predicateOf_lexeme]
    rfl
  obtain ⟨noSemicolon, -, noStop, noBracket, -⟩ := v.lexeme_ne
  rw [step]
  rcases h with h | h | h <;> rw [h]
  · exact taken
  · have open_ : r.closes v.lexeme = false := by
      simp [closes, noStop, noBracket]
    simp only [noSemicolon, if_false, open_, Bool.false_eq_true]
    exact taken
  · simp only [noBracket, if_false]
    exact taken

/-- A single token is taken as an object and adds a triple. -/
theorem step_plain (p : Plain) (line : Int) {predicate : String}
    (h : r.awaiting = .object predicate) :
    r.step table ⟨p.lexeme, line⟩ =
      .ok (r.advance [.mk r.current.subject predicate (p.meaning table)] (.more predicate) 0) := by
  have read : r.readObject table predicate ⟨p.lexeme, line⟩ =
      (objectOf table p.lexeme).map fun object =>
        r.advance [.mk r.current.subject predicate object] (.more predicate) 0 := by
    rcases p with (_ | _) | _ | _ <;> rfl
  rw [step, h]
  dsimp only
  rw [read, objectOf_lexeme]
  rfl

/-- A semicolon is taken where groups may be over. -/
theorem step_semicolon (line : Int) (h : r.awaiting.End) :
    r.step table ⟨.semicolon, line⟩ = .ok (r.advance [] .group 0) := by
  rw [step]
  rcases h with ⟨predicate, h⟩ | h <;> rw [h]
  · rfl
  · obtain ⟨current, enclosing, awaiting, nodes⟩ := r
    cases h
    rfl

/-- A comma is taken behind an object. -/
theorem step_comma (line : Int) {predicate : String} (h : r.awaiting = .more predicate) :
    r.step table ⟨.comma, line⟩ = .ok (r.advance [] (.object predicate) 0) := by
  rw [step, h]
  rfl

/-- A full stop is taken where groups may be over and no node is open. -/
theorem step_stop (line : Int) (h : r.awaiting.End) (outermost : r.enclosing = []) :
    r.step table ⟨.stop, line⟩ = .ok (r.advance [] .statement 0) := by
  have ended : r.endList ⟨.stop, line⟩ = .ok (r.advance [] .statement 0) := by
    simp [endList, outermost, advance]
  rw [step]
  rcases h with ⟨predicate, h⟩ | h <;> rw [h]
  · exact ended
  · simp [closes, outermost, ended]

/-- A closing bracket is taken where groups may be over in a node. -/
theorem step_close (line : Int) (n : OpenNode) (outer : List OpenNode)
    (h : r.awaiting.End ∨ r.awaiting = .node) (inside : r.enclosing = n :: outer) :
    r.step table ⟨.closeBracket, line⟩ = .ok (r.closeNode n outer) := by
  have ended : r.endList ⟨.closeBracket, line⟩ = .ok (r.closeNode n outer) := by
    rw [endList, inside]
  rw [step]
  rcases h with (⟨predicate, h⟩ | h) | h <;> rw [h]
  · exact ended
  · simp [closes, inside, ended]
  · simp [ended]

/-! ## The tokens of a tree -/

/-- Semicolons may follow one another. -/
theorem adds_semicolons (k : Nat) (h : r.awaiting.End) :
    Adds table r (List.replicate (k + 1) .semicolon) [] .group := by
  have first : Adds table r [.semicolon] [] .group :=
    adds_one (by simp) fun line => step_semicolon line h
  induction k generalizing r with
  | zero => exact first
  | succ k ih =>
    rw [List.replicate_succ]
    have again : (r.advance [] .group (opened [Lexeme.semicolon])).awaiting.End := Or.inr rfl
    exact first.append (ih again (adds_one (by simp) fun line => step_semicolon line again))

variable (table) in
/-- Behind the last group, semicolons or not, the groups may be over. -/
theorem adds_trailing (k : Nat) (h : r.awaiting.End) :
    ∃ w : Awaiting, w.End ∧ Adds table r (List.replicate k .semicolon) [] w := by
  cases k with
  | zero => exact ⟨r.awaiting, h, adds_nothing⟩
  | succ k => exact ⟨.group, Or.inr rfl, adds_semicolons k h⟩

/-- An opening bracket is taken as an object. -/
theorem step_open (line : Int) {predicate : String} (h : r.awaiting = .object predicate) :
    r.step table ⟨.openBracket, line⟩ = .ok (r.openNode predicate line) := by
  rw [step, h]
  rfl

/-- A blank node is read if what stands between its brackets is, in a list of its own. -/
theorem adds_node {body : List Lexeme} {inner : List Triple} {predicate : String}
    (h : r.awaiting = .object predicate)
    (inside : ∀ line, ∃ w : Awaiting, (w.End ∨ w = .node) ∧
      Adds table (r.openNode predicate line) body inner w) :
    Adds table r (.openBracket :: (body ++ [.closeBracket]))
      [.mk r.current.subject predicate (.blank (nodeLabel r.nodes) inner)] (.more predicate) := by
  have count : opened (.openBracket :: (body ++ [.closeBracket])) = opened body + 1 := by
    simp [opened]
  intro tokens same
  obtain ⟨t, rest, rfl, opens, behind⟩ := List.map_eq_cons_iff.mp same
  obtain ⟨w, ending, read⟩ := inside t.line
  have taken : r.step table t = .ok (r.openNode predicate t.line) := by
    rw [← step_open t.line h, ← opens]
  have closes := @takes_one table _ _ _ fun line =>
    step_close (r := (r.openNode predicate t.line).advance inner w (opened body)) line
      ⟨r.current, predicate, t.line⟩ r.enclosing ending rfl
  rw [run, taken]
  refine (Takes.append read closes rest behind).trans ?_
  simp [count, closeNode, advance, openNode, GroupList.add, Nat.add_assoc, Nat.add_comm]

end Reader

open Reader in
variable (table) in
mutual

/-- The tokens of an object add a triple with it. -/
theorem Object.adds (o : Object) (r : Reader) (predicate : String)
    (h : r.awaiting = .object predicate) :
    Adds table r o.lexemes [.mk r.current.subject predicate (o.meaning table r.nodes)]
      (.more predicate) := by
  match o with
  | .plain p =>
    rw [Object.lexemes, Object.meaning]
    exact adds_one p.lexeme_ne fun line => step_plain p line h
  | .emptyNode =>
    rw [Object.lexemes, Object.meaning]
    show Adds table r (.openBracket :: ([] ++ [.closeBracket])) _ _
    exact adds_node h fun line => ⟨.node, Or.inr rfl, adds_nothing⟩
  | .node g =>
    rw [Object.lexemes, Object.meaning]
    refine adds_node h fun line => ?_
    obtain ⟨w, ending, read⟩ := Groups.adds g (r.openNode predicate line) (Or.inr (Or.inr rfl))
    exact ⟨w, Or.inl ending, read⟩

/-- The tokens of some objects add a triple with each. -/
theorem Objects.adds (os : Objects) (r : Reader) (predicate : String)
    (h : r.awaiting = .object predicate) :
    Adds table r os.lexemes (os.triples table r.current.subject predicate r.nodes)
      (.more predicate) := by
  match os with
  | .one o =>
    rw [Objects.lexemes, Objects.triples]
    exact Object.adds o r predicate h
  | .more o rest =>
    rw [Objects.lexemes, Objects.triples]
    refine (Object.adds o r predicate h).append ?_
    refine Adds.cons (by simp) (fun line => step_comma line rfl) ?_
    exact Objects.adds rest _ predicate rfl

/-- The tokens of groups add their triples, and then the groups may be over. -/
theorem Groups.adds (g : Groups) (r : Reader) (h : r.awaiting.Verb) :
    ∃ w : Awaiting, w.End ∧
      Adds table r g.lexemes (g.triples table r.current.subject r.nodes) w := by
  match g with
  | .last v os k =>
    obtain ⟨w, ending, trailing⟩ := adds_trailing table k
      (r := (r.advance [] (.object (v.meaning table)) 0).advance
        (os.triples table r.current.subject (v.meaning table) r.nodes) (.more (v.meaning table))
        (opened os.lexemes)) (Or.inl ⟨_, rfl⟩)
    refine ⟨w, ending, ?_⟩
    rw [Groups.lexemes, Groups.triples]
    refine Adds.cons v.lexeme_ne.2.2.2.2 (fun line => step_verb v line h) ?_
    have read := (Objects.adds os (r.advance [] (.object (v.meaning table)) 0) _ rfl).append trailing
    rwa [List.append_nil] at read
  | .more v os k rest =>
    let r₁ := r.advance [] (.object (v.meaning table)) 0
    have objects := Objects.adds os r₁ (v.meaning table) rfl
    have between := objects.append (adds_semicolons k (Or.inl ⟨_, rfl⟩))
    have count : opened (os.lexemes ++ List.replicate (k + 1) .semicolon) = opened os.lexemes := by
      rw [opened_append, opened_replicate _ (by simp), Nat.add_zero]
    obtain ⟨w, ending, others⟩ := Groups.adds rest
      (r₁.advance (os.triples table r.current.subject (v.meaning table) r.nodes ++ []) .group
        (opened (os.lexemes ++ List.replicate (k + 1) .semicolon))) (Or.inr (Or.inl rfl))
    refine ⟨w, ending, ?_⟩
    have read := between.append others
    rw [count, List.append_nil, List.append_assoc] at read
    rw [Groups.lexemes, Groups.triples]
    exact Adds.cons v.lexeme_ne.2.2.2.2 (fun line => step_verb v line h) read

end

/-! ## The tokens of a block -/

namespace Reader

/-- Tokens like these can be the last ones, and the block has these triples then. -/
def Yields (table : PrefixTable) (r : Reader) (lexemes : List Lexeme) (ts : List Triple) : Prop :=
  ∀ tokens : List Token, tokens.map Token.lexeme = lexemes →
    ∃ final, r.run table tokens = .ok final ∧ ∀ line, final.finish line = .ok ts

/-- Tokens may be read before those that can be the last ones. -/
theorem Takes.yields {a b : List Lexeme} {ts : List Triple} (first : Takes table r a r')
    (rest : Yields table r' b ts) : Yields table r (a ++ b) ts := by
  intro tokens h
  obtain ⟨front, behind, rfl, hfront, hbehind⟩ := List.map_eq_append_iff.mp h
  rw [run_append (first front hfront)]
  exact rest behind hbehind

/-- Where groups may be over and no node is open, a block may end. -/
theorem finish_of_end (line : Option Int) (h : r.awaiting.End) (outermost : r.enclosing = []) :
    r.finish line = .ok r.current.triples.reverse := by
  rw [finish]
  rcases h with ⟨predicate, h⟩ | h <;> rw [h, outermost]

variable (table) in
/-- Full stops may follow one another. -/
theorem takes_stops (k : Nat) (h : r.awaiting = .statement) :
    Takes table r (List.replicate k .stop) r := by
  have one : Takes table r [.stop] r := takes_one fun line => by simp [step, h]
  induction k with
  | zero =>
    intro tokens same
    rw [List.map_eq_nil_iff.mp same, run]
  | succ k ih =>
    rw [List.replicate_succ]
    exact one.append ih

variable (table) in
/-- The tokens of a statement add its triples, and then it may end. -/
theorem takes_statement (s : Statement) (h : r.awaiting = .statement) :
    ∃ r', Takes table r s.lexemes r' ∧ r'.awaiting.End ∧ r'.enclosing = r.enclosing ∧
      r'.current.triples = (s.triples table r.nodes).reverse ++ r.current.triples ∧
      r'.nodes = r.nodes + opened s.lexemes := by
  obtain ⟨w, ending, read⟩ := Groups.adds table s.groups
    { r with current := { r.current with subject := s.subject.meaning table }
             awaiting := .predicate } (Or.inl rfl)
  have first := @takes_one table _ _ _ fun line => step_subject s.subject line h
  have count : opened s.lexemes = opened s.groups.lexemes :=
    opened_cons_of_ne s.subject.lexeme_ne.2 _
  refine ⟨_, Takes.append first read, ending, rfl, rfl, ?_⟩
  rw [count]
  rfl

/-- Statements are read one after the other, and add their triples. -/
theorem yields_statements (ended : List (Statement × Nat)) (last : Option Statement)
    (h : r.awaiting = .statement) (outermost : r.enclosing = []) :
    Yields table r (statementLexemes ended last)
      (r.current.triples.reverse ++
        statementTriples table r.nodes (ended.map Prod.fst ++ last.toList)) := by
  induction ended generalizing r with
  | nil =>
    cases last with
    | none =>
      intro tokens same
      rw [List.map_eq_nil_iff.mp same]
      refine ⟨r, rfl, fun line => ?_⟩
      simp [finish, h, statementTriples]
    | some s =>
      intro tokens same
      obtain ⟨r', read, ending, same', triples, -⟩ := takes_statement table s h
      refine ⟨r', read tokens (by simpa [statementLexemes] using same), fun line => ?_⟩
      rw [finish_of_end line ending (same'.trans outermost), triples]
      simp [statementTriples]
  | cons e rest ih =>
    obtain ⟨s, k⟩ := e
    obtain ⟨r', read, ending, same, triples, nodes⟩ := takes_statement table s h
    have stop := @takes_one table _ _ _ fun line =>
      step_stop line ending (same.trans outermost)
    have stops := takes_stops table (r := r'.advance [] .statement 0) k rfl
    have others := ih (r := r'.advance [] .statement 0) rfl (same.trans outermost)
    have all := read.yields (stop.yields (stops.yields others))
    rw [statementLexemes_cons, List.replicate_succ]
    refine (congrArg (Yields table r _) ?_).mp all
    simp [advance, triples, nodes, statementTriples]

end Reader

/-- The tokens of a tree are read as the triples that it stands for. -/
theorem statements_of_lexemes (b : BlockTree) {tokens : List Token}
    (h : tokens.map Token.lexeme = b.lexemes) : statements table tokens = .ok (b.triples table) := by
  have stops := Reader.takes_stops table (r := Reader.start) b.stops rfl
  have whole := stops.yields (Reader.yields_statements b.ended b.last rfl rfl)
  obtain ⟨final, read, finished⟩ := whole tokens h
  rw [statements, read]
  exact finished _

end DocGraph.Block
