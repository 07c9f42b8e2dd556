import DocGraph.Proofs.Block.Language
import DocGraph.Proofs.Block.Layout

/-!
# Which token is to blame

A list of tokens that is no block gives an error, and the error names the line of one of the tokens.
Which one can be said without a reader (`Blames`): the first token with which no block can go on, or the
last one, where something is missing, or the bracket of a blank node that is not closed. `statements_blames`
says that it is always one of these, and that the fault fits it.

That a token is the first one of this kind takes two things. Whatever a reader has read without an error
can be completed to a block (`exists_accepted`), and behind an error no block goes on. Which bracket is
not closed, a reader has on its stack; `Stacked` says where these brackets stand among what was read.
-/

set_option autoImplicit false

namespace DocGraph.Block

variable {table : PrefixTable}

/-! ## What a token is to blame for -/

/-- A block can begin with some tokens. -/
def Viable (tokens : List Lexeme) : Prop :=
  ∃ (b : BlockTree) (more : List Lexeme), b.lexemes = tokens ++ more

/-- Tokens among which every bracket that is opened is closed, and no other one. -/
inductive Balanced : List Lexeme → Prop
  | nil : Balanced []
  | plain {l : Lexeme} (opens : l ≠ .openBracket) (closes : l ≠ .closeBracket) : Balanced [l]
  | append {a b : List Lexeme} (first : Balanced a) (second : Balanced b) : Balanced (a ++ b)
  | node {inner : List Lexeme} (inside : Balanced inner) :
      Balanced (.openBracket :: (inner ++ [.closeBracket]))

/-- The faults that are found in a token. -/
def Fault.IsAbout (l : Lexeme) (fault : Fault) : Prop :=
  fault ∈ [.statementNotEnded l.text, .blankSubject, .notASubject l.text, .notAPredicate l.text,
    .notAnObject l.text]

/-- What is to blame for a fault, given the tokens before it and behind it. -/
inductive Blames : Fault → List Lexeme → Lexeme → List Lexeme → Prop
  /-- The token that was found is the first one with which no block can go on. -/
  | found {fault : Fault} {front : List Lexeme} {l : Lexeme} {behind : List Lexeme}
      (about : fault.IsAbout l) (viable : Viable front) (stuck : ¬Viable (front ++ [l])) :
      Blames fault front l behind
  /-- The last token is none that a block can end with. -/
  | last {front : List Lexeme} {l : Lexeme} (viable : Viable (front ++ [l]))
      (unfinished : ∀ b : BlockTree, b.lexemes ≠ front ++ [l]) : Blames .unexpectedEnd front l []
  /-- A bracket is the last one that is not closed where the tokens are over or no block can go on. -/
  | bracket {front inner behind : List Lexeme} (viable : Viable (front ++ .openBracket :: inner))
      (inside : Balanced inner)
      (stuck : ∀ l ∈ behind.head?, ¬Viable (front ++ .openBracket :: (inner ++ [l]))) :
      Blames .nodeNotClosed front .openBracket (inner ++ behind)

/-! ### Only one token is -/

/-- What can go on with some tokens can go on. -/
theorem Viable.of_append {tokens more : List Lexeme} (h : Viable (tokens ++ more)) :
    Viable tokens := by
  obtain ⟨b, rest, same⟩ := h
  exact ⟨b, more ++ rest, by rw [same, List.append_assoc]⟩

/-- Where tokens stop being viable is one place. -/
theorem Viable.length_le {front behind front' behind' : List Lexeme} (h' : Viable front')
    (stuck : ∀ l ∈ behind.head?, ¬Viable (front ++ [l]))
    (same : front ++ behind = front' ++ behind') : front'.length ≤ front.length := by
  rcases List.append_eq_append_iff.mp same with ⟨passed, rfl, rfl⟩ | ⟨passed, rfl, -⟩
  · cases passed with
    | nil => simp
    | cons l passed =>
      have further : Viable ((front ++ [l]) ++ passed) := by
        rwa [List.append_assoc, List.singleton_append]
      exact absurd further.of_append (stuck l rfl)
  · simp

/-- Balanced tokens open and close as many nodes. -/
theorem Balanced.count_eq {tokens : List Lexeme} (h : Balanced tokens) :
    tokens.count .openBracket = tokens.count .closeBracket := by
  induction h with
  | nil => rfl
  | plain opens closes => simp [opens, closes]
  | append _ _ first second => rw [List.count_append, List.count_append, first, second]
  | node _ inside =>
    simp [inside]

/-- Among balanced tokens, what stands at the end closes at least as many brackets as it opens. -/
theorem Balanced.count_le {tokens : List Lexeme} (h : Balanced tokens) {front behind : List Lexeme}
    (split : tokens = front ++ behind) :
    behind.count .openBracket ≤ behind.count .closeBracket := by
  induction h generalizing front behind with
  | nil =>
    obtain ⟨-, rfl⟩ := List.append_eq_nil_iff.mp split.symm
    exact Nat.le_refl _
  | @plain l opens closes =>
    have part : behind.Sublist [l] := split ▸ List.sublist_append_right front behind
    have none_ := part.count_le Lexeme.openBracket
    simp [opens] at none_
    omega
  | @append a b _ _ first second =>
    rcases List.append_eq_append_iff.mp split with ⟨passed, rfl, rest⟩ | ⟨passed, rest, rfl⟩
    · exact second rest
    · have left := first rest
      have right := second (List.nil_append b).symm
      rw [List.count_append, List.count_append]
      omega
  | @node inner _ inside =>
    have whole := inside (List.nil_append inner).symm
    cases front with
    | nil =>
      obtain rfl : _ = behind := split
      simp
      omega
    | cons l front =>
      have rest := List.tail_eq_of_cons_eq split
      rcases List.append_eq_append_iff.mp rest with ⟨passed, rfl, last⟩ | ⟨passed, rfl, rfl⟩
      · have part : behind.Sublist [.closeBracket] := last ▸ List.sublist_append_right passed behind
        have none_ := part.count_le Lexeme.openBracket
        simp at none_
        omega
      · have left := inside (rfl : front ++ passed = front ++ passed)
        simp
        omega

/-- Of the brackets that are not closed, one is the last one. -/
theorem Balanced.length_le {front inner front' inner' : List Lexeme} (inside : Balanced inner)
    (inside' : Balanced inner')
    (same : front ++ .openBracket :: inner = front' ++ .openBracket :: inner') :
    front'.length ≤ front.length := by
  rcases List.append_eq_append_iff.mp same with ⟨passed, rfl, rest⟩ | ⟨passed, rfl, -⟩
  · cases passed with
    | nil => simp
    | cons l passed =>
      -- The other bracket would be opened among what is balanced behind this one, and not closed.
      have part : inner = passed ++ .openBracket :: inner' := List.tail_eq_of_cons_eq rest
      have most := inside.count_le part
      have even := inside'.count_eq
      simp at most
      omega
  · simp

/-- For a fault one token is to blame. -/
theorem Blames.unique {fault : Fault} {front front' behind behind' : List Lexeme} {t t' : Lexeme}
    (h : Blames fault front t behind) (h' : Blames fault front' t' behind')
    (same : front ++ t :: behind = front' ++ t' :: behind') : front = front' := by
  have shorter : ∀ {front front' behind behind' : List Lexeme} {t t' : Lexeme},
      Blames fault front t behind → Blames fault front' t' behind' →
      front ++ t :: behind = front' ++ t' :: behind' → front'.length ≤ front.length := by
    intro front front' behind behind' t t' h h' same
    cases h with
    | found about viable stuck =>
      have before : Viable front' := by
        cases h' with
        | found _ viable _ => exact viable
        | last viable _ => exact viable.of_append
        | bracket viable _ _ => exact viable.of_append
      exact before.length_le (by simpa using stuck) same
    | last viable _ =>
      have lengths := congrArg List.length same
      simp at lengths
      omega
    | @bracket _ inner rest viable inside stuck =>
      cases h' with
      | found about _ _ => simp [Fault.IsAbout] at about
      | @bracket _ inner' rest' viable' inside' stuck' =>
        have whole : (front ++ .openBracket :: inner) ++ rest =
            (front' ++ .openBracket :: inner') ++ rest' := by simpa using same
        have most := viable'.length_le (by simpa using stuck) whole
        have least := viable.length_le (by simpa using stuck') whole.symm
        exact inside.length_le inside' (List.append_inj whole (Nat.le_antisymm least most)).1
  have lengths : front.length = front'.length :=
    Nat.le_antisymm (shorter h' h same.symm) (shorter h h' same)
  exact (List.append_inj same lengths).1

namespace Reader

variable {r r' : Reader} {t : Token} {e : GrammarError}

/-! ### Where a block can go on -/

/-- A token that is taken stands before those that are accepted after it. -/
theorem Accepts.of_cons {rest : List Token} (taken : r.step table t = .ok r')
    (h : Accepts table r' rest) : Accepts table r (t :: rest) := by
  obtain ⟨final, line, ts, read, finished⟩ := h
  refine ⟨final, line, ts, ?_, finished⟩
  rw [run, taken]
  exact read

/-- Where groups may be over, the nodes that are open can be closed. -/
theorem exists_accepted_of_end (h : r.awaiting.End ∨ r.awaiting = .node) :
    ∃ more, Accepts table r more := by
  -- A closing bracket leaves one open node less, behind which groups may be over again.
  induction inside : r.enclosing generalizing r with
  | nil =>
    refine ⟨[], r, none, r.current.triples.reverse, rfl, ?_⟩
    rcases h with ending | node
    · exact finish_of_end none ending inside
    · rw [finish, node, inside]
  | cons n outer ih =>
    have close : r.step table ⟨.closeBracket, 0⟩ = .ok (r.closeNode n outer) :=
      step_close 0 n outer h inside
    obtain ⟨more, accepted⟩ := @ih (r.closeNode n outer) (Or.inl (Or.inl ⟨_, rfl⟩)) rfl
    exact ⟨_, accepted.of_cons close⟩

variable (table) in
/-- From wherever it stands, a reader can come to an end. -/
theorem exists_accepted (r : Reader) : ∃ more, Accepts table r more := by
  have object : ∀ (r : Reader) (predicate : String), r.awaiting = .object predicate →
      ∃ more, Accepts table r more := by
    intro r predicate before
    obtain ⟨more, accepted⟩ := @exists_accepted_of_end table
      (r.advance [.mk r.current.subject predicate (.literal "a")] (.more predicate) 0)
      (Or.inl (Or.inl ⟨predicate, rfl⟩))
    exact ⟨_, accepted.of_cons (step_plain (.word "a") 0 before)⟩
  cases awaiting : r.awaiting with
  | statement =>
    refine ⟨[], r, none, r.current.triples.reverse, rfl, ?_⟩
    rw [finish, awaiting]
  | predicate =>
    obtain ⟨more, accepted⟩ := object (r.advance [] (.object typePredicate) 0) typePredicate rfl
    exact ⟨_, accepted.of_cons (step_verb .type 0 (Or.inl awaiting))⟩
  | object predicate => exact object r predicate awaiting
  | more predicate => exact exists_accepted_of_end (Or.inl (Or.inl ⟨predicate, awaiting⟩))
  | group => exact exists_accepted_of_end (Or.inl (Or.inr awaiting))
  | node => exact exists_accepted_of_end (Or.inr awaiting)

/-- What a reader has taken can go on to a block. -/
theorem viable_of_run {tokens : List Token} (h : Reader.start.run table tokens = .ok r) :
    Viable (tokens.map Token.lexeme) := by
  obtain ⟨more, final, line, ts, read, finished⟩ := exists_accepted table r
  have accepted : Accepts table .start (tokens ++ more) :=
    ⟨final, line, ts, (run_append h).trans read, finished⟩
  obtain ⟨k, ended, last, same⟩ := exists_statements table .start _ rfl rfl accepted
  refine ⟨⟨k, ended, last⟩, more.map Token.lexeme, ?_⟩
  rw [← List.map_append, same]
  rfl

/-- An error is not undone by what comes later. -/
theorem run_append_error {front : List Token} (rest : List Token)
    (h : r.run table front = .error e) : r.run table (front ++ rest) = .error e := by
  induction front generalizing r with
  | nil => cases h
  | cons t front ih =>
    rw [run_cons] at h
    rw [List.cons_append, run_cons]
    rcases bind_eq_error_iff.mp h with fails | ⟨next, taken, h⟩
    · rw [fails]
      rfl
    · rw [taken]
      exact ih h

/-- What a reader fails at cannot go on to a block. -/
theorem not_viable_of_run {tokens : List Token} (h : Reader.start.run table tokens = .error e) :
    ¬Viable (tokens.map Token.lexeme) := by
  rintro ⟨b, more, same⟩
  have whole : (tokens ++ more.map (Token.mk · 0)).map Token.lexeme = b.lexemes := by
    rw [same, List.map_append, List.map_map]
    congr 1
    exact List.map_id' more
  have read := @statements_of_lexemes table b _ whole
  rw [statements, run_append_error _ h] at read
  cases read

/-! ### Which brackets are open -/

/-- The brackets of the open nodes, innermost first, and what stands behind each of them. -/
inductive Stacked : List Token → List OpenNode → Prop
  | none {read : List Token} (closed : Balanced (read.map Token.lexeme)) : Stacked read []
  | node {front inner : List Token} {bracket : Token} {n : OpenNode} {outer : List OpenNode}
      (around : Stacked front outer) (opens : bracket.lexeme = .openBracket)
      (line : n.line = bracket.line) (closed : Balanced (inner.map Token.lexeme)) :
      Stacked (front ++ bracket :: inner) (n :: outer)

/-- Behind balanced tokens the same nodes are open. -/
theorem Stacked.append {read more : List Token} {nodes : List OpenNode} (h : Stacked read nodes)
    (closed : Balanced (more.map Token.lexeme)) : Stacked (read ++ more) nodes := by
  cases h with
  | none before =>
    refine .none ?_
    rw [List.map_append]
    exact before.append closed
  | node around opens line inside =>
    rw [List.append_assoc, List.cons_append]
    refine .node around opens line ?_
    rw [List.map_append]
    exact inside.append closed

/-- The end of a list closes the innermost node, or it is the full stop of a statement. -/
theorem endList_enclosing (h : r.endList t = .ok r') :
    (t.lexeme = .closeBracket ∧ ∃ n, r.enclosing = n :: r'.enclosing) ∨
      (t.lexeme = .stop ∧ r'.enclosing = r.enclosing) := by
  unfold endList at h
  split at h
  next n outer inside closes =>
    cases h
    exact Or.inl ⟨closes, n, inside⟩
  · cases h
  next outermost stops =>
    cases h
    exact Or.inr ⟨stops, rfl⟩
  · cases h

/-- A predicate opens and closes no node. -/
theorem enclosing_of_predicate (before : r.awaiting = .predicate) (h : r.step table t = .ok r') :
    (t.lexeme ≠ .openBracket ∧ t.lexeme ≠ .closeBracket) ∧ r'.enclosing = r.enclosing := by
  obtain ⟨v, verb⟩ := exists_verb h before
  obtain ⟨lexeme, line⟩ := t
  obtain rfl : lexeme = v.lexeme := verb
  rw [step_verb v line (Or.inl before)] at h
  cases h
  exact ⟨⟨v.lexeme_ne.2.2.2.2, v.lexeme_ne.2.2.2.1⟩, rfl⟩

/-- A subject opens and closes no node. -/
theorem enclosing_of_statement (before : r.awaiting = .statement) (h : r.step table t = .ok r') :
    (t.lexeme ≠ .openBracket ∧ t.lexeme ≠ .closeBracket) ∧ r'.enclosing = r.enclosing := by
  by_cases stop : t.lexeme = .stop
  · rw [step, before] at h
    simp only [stop, if_true] at h
    cases h
    exact ⟨by simp [stop], rfl⟩
  · obtain ⟨s, subject⟩ := exists_subject h before stop
    obtain ⟨lexeme, line⟩ := t
    obtain rfl : lexeme = s.lexeme := subject
    rw [step_subject s line before] at h
    cases h
    exact ⟨⟨s.lexeme_ne.2, by cases s <;> simp [Reference.lexeme]⟩, rfl⟩

/-- An object opens a node with its bracket, or none. -/
theorem enclosing_of_object {predicate : String} (before : r.awaiting = .object predicate)
    (h : r.step table t = .ok r') :
    (t.lexeme = .openBracket ∧ ∃ n, n.line = t.line ∧ r'.enclosing = n :: r.enclosing) ∨
      ((t.lexeme ≠ .openBracket ∧ t.lexeme ≠ .closeBracket) ∧ r'.enclosing = r.enclosing) := by
  obtain ⟨lexeme, line⟩ := t
  by_cases opens : lexeme = .openBracket
  · subst opens
    rw [step_open line before] at h
    cases h
    exact Or.inl ⟨rfl, _, rfl, rfl⟩
  · obtain ⟨p, plain⟩ := exists_plain h before opens
    obtain rfl : lexeme = p.lexeme := plain
    rw [step_plain p line before] at h
    cases h
    have closes : p.lexeme ≠ .closeBracket := by
      rcases p with (_ | _) | _ | _ <;> simp [Plain.lexeme, Reference.lexeme]
    exact Or.inr ⟨⟨opens, closes⟩, rfl⟩

/-- A token opens a node, closes one, or does neither. -/
theorem step_enclosing (h : r.step table t = .ok r') :
    (t.lexeme = .openBracket ∧ ∃ n, n.line = t.line ∧ r'.enclosing = n :: r.enclosing) ∨
      (t.lexeme = .closeBracket ∧ ∃ n, r.enclosing = n :: r'.enclosing) ∨
      ((t.lexeme ≠ .openBracket ∧ t.lexeme ≠ .closeBracket) ∧ r'.enclosing = r.enclosing) := by
  have ending : r.endList t = .ok r' →
      (t.lexeme = .closeBracket ∧ ∃ n, r.enclosing = n :: r'.enclosing) ∨
      ((t.lexeme ≠ .openBracket ∧ t.lexeme ≠ .closeBracket) ∧ r'.enclosing = r.enclosing) :=
    fun ended => (endList_enclosing ended).imp_right fun stops => ⟨by simp [stops.1], stops.2⟩
  cases awaiting : r.awaiting with
  | statement => exact Or.inr (Or.inr (enclosing_of_statement awaiting h))
  | predicate => exact Or.inr (Or.inr (enclosing_of_predicate awaiting h))
  | object predicate => exact (enclosing_of_object awaiting h).imp_right Or.inr
  | more predicate =>
    rw [step, awaiting] at h
    dsimp only at h
    split at h
    next comma =>
      cases h
      exact Or.inr (Or.inr ⟨by simp [comma], rfl⟩)
    next semicolon =>
      cases h
      exact Or.inr (Or.inr ⟨by simp [semicolon], rfl⟩)
    · exact Or.inr (ending h)
  | group =>
    by_cases semicolon : t.lexeme = .semicolon
    · rw [step, awaiting] at h
      simp only [semicolon, if_true] at h
      cases h
      exact Or.inr (Or.inr ⟨by simp [semicolon], rfl⟩)
    · cases closes : r.closes t.lexeme with
      | true =>
        rw [step, awaiting] at h
        simp only [semicolon, if_false, closes, if_true] at h
        exact Or.inr (ending h)
      | false =>
        rw [step_group_eq awaiting semicolon closes] at h
        exact Or.inr (Or.inr (enclosing_of_predicate (r := { r with awaiting := .predicate }) rfl h))
  | node =>
    by_cases closes : t.lexeme = .closeBracket
    · rw [step, awaiting] at h
      simp only [closes, if_true] at h
      exact Or.inr (ending h)
    · rw [step_node_eq awaiting closes] at h
      exact Or.inr (Or.inr (enclosing_of_predicate (r := { r with awaiting := .predicate }) rfl h))

/-- A token that is taken keeps the nodes that are open. -/
theorem Stacked.step {read : List Token} (h : Stacked read r.enclosing)
    (taken : r.step table t = .ok r') : Stacked (read ++ [t]) r'.enclosing := by
  rcases step_enclosing taken with ⟨opens, n, line, inside⟩ | ⟨closes, n, inside⟩ | ⟨plain, inside⟩
  · rw [inside]
    exact .node h opens line .nil
  · rw [inside] at h
    cases h with
    | @node front inner bracket _ _ around opens line closed =>
      -- The node that is closed stands, with its brackets, behind the bracket around it.
      have node : Balanced ((bracket :: (inner ++ [t])).map Token.lexeme) := by
        rw [List.map_cons, List.map_append, List.map_singleton, opens, closes]
        exact closed.node
      rw [List.append_assoc, List.cons_append]
      exact around.append node
  · rw [inside]
    exact h.append (.plain plain.1 plain.2)

/-- Tokens that are taken keep the nodes that are open. -/
theorem Stacked.run {read tokens : List Token} (h : Stacked read r.enclosing)
    (taken : r.run table tokens = .ok r') : Stacked (read ++ tokens) r'.enclosing := by
  induction tokens generalizing r read with
  | nil =>
    cases taken
    rwa [List.append_nil]
  | cons t tokens ih =>
    rw [run_cons] at taken
    obtain ⟨next, first, taken⟩ := bind_eq_ok_iff.mp taken
    rw [← List.singleton_append, ← List.append_assoc]
    exact ih (h.step first) taken

/-! ### What goes wrong -/

/-- A fault of a subject is about the token that should be one. -/
theorem isAbout_of_subject {fault : Fault} {l : Lexeme} (h : subjectOf table l = .error fault) :
    fault.IsAbout l := by
  unfold subjectOf at h
  split at h <;> cases h <;> simp [Fault.IsAbout]

/-- A fault of a predicate is about the token that should be one. -/
theorem isAbout_of_predicate {fault : Fault} {l : Lexeme}
    (h : predicateOf table l = .error fault) : fault.IsAbout l := by
  unfold predicateOf at h
  split at h <;> cases h
  simp [Fault.IsAbout]

/-- A fault of an object is about the token that should be one. -/
theorem isAbout_of_object {fault : Fault} {l : Lexeme} (h : objectOf table l = .error fault) :
    fault.IsAbout l := by
  unfold objectOf at h
  split at h <;> cases h
  simp [Fault.IsAbout]

/-- A token is to blame for a fault in what is read from it, whatever comes of that. -/
theorem isAbout_of_blame {α β : Type} {x : Except Fault α} {f : α → Except Fault β}
    (goes : ∀ a, ∃ b, f a = .ok b) (about : ∀ fault, x = .error fault → fault.IsAbout t.lexeme)
    (h : blame t (x >>= f) = .error e) : e.line = some t.line ∧ e.fault.IsAbout t.lexeme := by
  cases x with
  | ok a =>
    obtain ⟨b, same⟩ := goes a
    have passes : (Except.ok a >>= f) = .ok b := same
    rw [passes] at h
    cases h
  | error fault =>
    cases h
    exact ⟨rfl, about fault rfl⟩

/-- A predicate that is not accepted is blamed on its own line. -/
theorem readPredicate_error (h : blame t (r.readPredicate table t.lexeme) = .error e) :
    e.line = some t.line ∧ e.fault.IsAbout t.lexeme :=
  isAbout_of_blame (fun _ => ⟨_, rfl⟩) (fun _ => isAbout_of_predicate) h

/-- An object that is not accepted is blamed on its own line. -/
theorem readObject_error {predicate : String} (h : blame t (r.readObject table predicate t) = .error e) :
    e.line = some t.line ∧ e.fault.IsAbout t.lexeme := by
  unfold readObject at h
  split at h
  · cases h
  · exact isAbout_of_blame (fun _ => ⟨_, rfl⟩) (fun _ => isAbout_of_object) h

/-- A list that does not end as it should is blamed on the line of the token, or on the bracket of
the node that is not closed. -/
theorem endList_error (h : r.endList t = .error e) :
    (e.line = some t.line ∧ e.fault.IsAbout t.lexeme) ∨
      ∃ n outer, r.enclosing = n :: outer ∧ e = ⟨.nodeNotClosed, some n.line⟩ := by
  unfold endList at h
  split at h
  · cases h
  next n outer inside _ =>
    cases h
    exact Or.inr ⟨n, outer, inside, rfl⟩
  · cases h
  next other _ _ =>
    cases h
    exact Or.inl ⟨rfl, by simp [Fault.IsAbout]⟩

/-- A token that is not accepted is blamed on its own line, or on the bracket of the node that is
not closed. -/
theorem step_error (h : r.step table t = .error e) :
    (e.line = some t.line ∧ e.fault.IsAbout t.lexeme) ∨
      ∃ n outer, r.enclosing = n :: outer ∧ e = ⟨.nodeNotClosed, some n.line⟩ := by
  unfold step at h
  cases awaiting : r.awaiting with
  | statement =>
    rw [awaiting] at h
    dsimp only at h
    split at h
    · cases h
    · exact Or.inl (isAbout_of_blame (fun _ => ⟨_, rfl⟩) (fun _ => isAbout_of_subject) h)
  | predicate =>
    rw [awaiting] at h
    exact Or.inl (readPredicate_error h)
  | object predicate =>
    rw [awaiting] at h
    exact Or.inl (readObject_error h)
  | more predicate =>
    rw [awaiting] at h
    dsimp only at h
    split at h
    · cases h
    · cases h
    · exact endList_error h
  | group =>
    rw [awaiting] at h
    dsimp only at h
    split at h
    · cases h
    · split at h
      · exact endList_error h
      · exact Or.inl (readPredicate_error h)
  | node =>
    rw [awaiting] at h
    dsimp only at h
    split at h
    · exact endList_error h
    · exact Or.inl (readPredicate_error h)

/-- Reading fails at one token, and takes those before it. -/
theorem exists_step_of_run {tokens : List Token} (h : r.run table tokens = .error e) :
    ∃ read t rest r', tokens = read ++ t :: rest ∧ r.run table read = .ok r' ∧
      r'.step table t = .error e := by
  induction tokens generalizing r with
  | nil => cases h
  | cons t tokens ih =>
    rw [run_cons] at h
    rcases bind_eq_error_iff.mp h with fails | ⟨next, taken, h⟩
    · exact ⟨[], t, tokens, r, rfl, rfl, fails⟩
    · obtain ⟨read, u, rest, r', rfl, first, fails⟩ := ih h
      refine ⟨t :: read, u, rest, r', rfl, ?_, fails⟩
      rw [run_cons, taken]
      exact first

/-- At the end a token may be missing, or the bracket that closes a node. -/
theorem finish_error {line : Option Int} (h : r.finish line = .error e) :
    (r.awaiting ≠ .statement ∧ e = ⟨.unexpectedEnd, line⟩) ∨
      ∃ n outer, r.enclosing = n :: outer ∧ e = ⟨.nodeNotClosed, some n.line⟩ := by
  unfold finish at h
  split at h
  · cases h
  next awaiting =>
    cases h
    exact Or.inl ⟨by simp [awaiting], rfl⟩
  next awaiting =>
    cases h
    exact Or.inl ⟨by simp [awaiting], rfl⟩
  all_goals
    split at h
    · cases h
    next n outer inside =>
      cases h
      exact Or.inr ⟨n, outer, inside, rfl⟩

/-- The bracket of the innermost open node is the last one that is not closed. -/
theorem exists_bracket {read : List Token} {n : OpenNode} {outer : List OpenNode}
    (first : Reader.start.run table read = .ok r) (inside : r.enclosing = n :: outer) :
    ∃ front bracket inner, read = front ++ bracket :: inner ∧ bracket.lexeme = .openBracket ∧
      n.line = bracket.line ∧ Balanced (inner.map Token.lexeme) := by
  have none_ : Stacked [] Reader.start.enclosing := .none .nil
  have stacked : Stacked ([] ++ read) r.enclosing := none_.run first
  rw [List.nil_append, inside] at stacked
  cases stacked with
  | node around opens line closed => exact ⟨_, _, _, rfl, opens, line, closed⟩

end Reader

/-- An open node is to blame where nothing can follow. -/
theorem blames_bracket {read : List Token} (behind : List Token) {r : Reader} {n : OpenNode}
    {outer : List OpenNode} (first : Reader.start.run table read = .ok r)
    (inside : r.enclosing = n :: outer)
    (stuck : ∀ t ∈ behind.head?, ¬Viable ((read ++ [t]).map Token.lexeme)) :
    ∃ front t rest, read ++ behind = front ++ t :: rest ∧ some n.line = some t.line ∧
      Blames .nodeNotClosed (front.map Token.lexeme) t.lexeme (rest.map Token.lexeme) := by
  have viable := Reader.viable_of_run first
  obtain ⟨front, bracket, inner, rfl, opens, line, closed⟩ := Reader.exists_bracket first inside
  refine ⟨front, bracket, inner ++ behind, by simp, by rw [line], ?_⟩
  rw [List.map_append, List.map_cons, opens] at viable
  rw [opens, List.map_append]
  refine .bracket viable closed fun l here => ?_
  rw [List.head?_map] at here
  obtain ⟨t, member, rfl⟩ := Option.map_eq_some_iff.mp here
  simpa [opens] using stuck t member

/-- An error in tokens is on the line of the one to blame for it. -/
theorem statements_blames {tokens : List Token} {e : GrammarError}
    (h : statements table tokens = .error e) :
    ∃ front t behind, tokens = front ++ t :: behind ∧ e.line = some t.line ∧
      Blames e.fault (front.map Token.lexeme) t.lexeme (behind.map Token.lexeme) := by
  have failed := h
  rw [statements] at h
  cases read : Reader.start.run table tokens with
  | error e' =>
    rw [read] at h
    cases h
    obtain ⟨front, t, rest, r, rfl, first, fails⟩ := Reader.exists_step_of_run read
    have stuck : ¬Viable ((front ++ [t]).map Token.lexeme) := by
      have broken : Reader.start.run table (front ++ [t]) = .error e := by
        rw [Reader.run_append first, Reader.run, fails]
      exact Reader.not_viable_of_run broken
    -- Up to this token all is well, so it is to blame, unless it only shows that a node is open.
    rcases Reader.step_error fails with ⟨line, about⟩ | ⟨n, outer, inside, rfl⟩
    · refine ⟨front, t, rest, rfl, line, .found about (Reader.viable_of_run first) ?_⟩
      rwa [List.map_append] at stuck
    · refine blames_bracket (t :: rest) first inside fun u here => ?_
      rwa [← Option.some.inj here]
  | ok r =>
    rw [read] at h
    rcases Reader.finish_error h with ⟨open_, rfl⟩ | ⟨n, outer, inside, rfl⟩
    · rcases tokens.eq_nil_or_concat with rfl | ⟨front, t, rfl⟩
      · cases read
        exact absurd rfl open_
      · -- All the tokens were taken, but they are no block.
        rw [List.concat_eq_append] at read failed ⊢
        have viable := Reader.viable_of_run read
        rw [List.map_append] at viable
        refine ⟨front, t, [], rfl, by simp, .last viable fun b same => ?_⟩
        rw [statements_of_lexemes b (by rw [same, List.map_append]; rfl)] at failed
        cases failed
    · obtain ⟨front, t, rest, split_, line, blames⟩ :=
        blames_bracket [] read inside fun t impossible => (by cases impossible)
      rw [List.append_nil] at split_
      exact ⟨front, t, rest, split_, line, blames⟩

end DocGraph.Block
