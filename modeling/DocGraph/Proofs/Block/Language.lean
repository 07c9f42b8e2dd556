import DocGraph.Proofs.Block.Reading

/-!
# The language of blocks

`statements_iff_tree` says which tokens are read: those of the trees of the grammar, and no others.
What is read are the triples of the tree, of which there is only one.

That the tokens of a tree are read is known. For the other way, take a reader that gets to the end.
What it has taken begins with the tokens of a tree for whatever was awaited, and since those lead to
a known reader, the rest can be looked at from there. `groupsBelow` does this for groups, by induction
on how many tokens are left, since groups hold objects, and objects hold groups.
-/

set_option autoImplicit false

namespace DocGraph.Block

variable {table : PrefixTable} {r r' : Reader}

namespace Reader

/-- The tokens can be the last ones. -/
def Accepts (table : PrefixTable) (r : Reader) (tokens : List Token) : Prop :=
  ∃ final line ts, r.run table tokens = .ok final ∧ final.finish line = .ok ts

/-- What stands behind the groups that a reader is in: what ends them, or nothing if no node is
open. -/
def Ended (r : Reader) : List Token → Prop
  | [] => r.enclosing = []
  | t :: _ => (r.enclosing = [] ∧ t.lexeme = .stop) ∨ (r.enclosing ≠ [] ∧ t.lexeme = .closeBracket)

/-- Of tokens that are accepted the first one is taken, and the others are accepted after it. -/
theorem Accepts.cons {t : Token} {rest : List Token} (h : Accepts table r (t :: rest)) :
    ∃ r', r.step table t = .ok r' ∧ Accepts table r' rest := by
  obtain ⟨final, line, ts, read, finished⟩ := h
  rw [run_cons] at read
  obtain ⟨r', taken, read⟩ := bind_eq_ok_iff.mp read
  exact ⟨r', taken, final, line, ts, read, finished⟩

/-- Of tokens that are accepted those are that are left when some were taken. -/
theorem Accepts.behind (front : List Token) {rest : List Token} {lexemes : List Lexeme}
    (h : Accepts table r (front ++ rest)) (same : front.map Token.lexeme = lexemes)
    (taken : Takes table r lexemes r') : Accepts table r' rest := by
  obtain ⟨final, line, ts, read, finished⟩ := h
  rw [run_append (taken front same)] at read
  exact ⟨final, line, ts, read, finished⟩

/-- If the next token is taken as it would be by another reader, the tokens are accepted by that. -/
theorem Accepts.of_step {t : Token} {rest : List Token} (h : Accepts table r (t :: rest))
    (same : r.step table t = r'.step table t) : Accepts table r' (t :: rest) := by
  obtain ⟨final, line, ts, read, finished⟩ := h
  refine ⟨final, line, ts, ?_, finished⟩
  rw [run] at read ⊢
  rwa [same] at read

/-- Where no token is needed any more, no node is open and groups may be over. -/
theorem Accepts.ended_of_nil (h : Accepts table r []) (groups : r.awaiting ≠ .statement) :
    r.enclosing = [] ∧ (r.awaiting.End ∨ r.awaiting = .node) := by
  obtain ⟨final, line, ts, read, finished⟩ := h
  rw [run] at read
  cases read
  obtain ⟨current, enclosing, awaiting, nodes⟩ := r
  cases awaiting <;> cases enclosing <;> simp_all [finish, Awaiting.End]

/-! ### What a single token can be -/

/-- What is taken at the start of a statement is a reference, unless it is a full stop. -/
theorem exists_subject {t : Token} (h : r.step table t = .ok r') (before : r.awaiting = .statement)
    (noStop : t.lexeme ≠ .stop) : ∃ s : Reference, t.lexeme = s.lexeme := by
  rw [step, before] at h
  simp only [noStop, if_false, readSubject] at h
  cases same : t.lexeme with
  | uri text => exact ⟨.uri text, rfl⟩
  | prefixed text => exact ⟨.prefixed text, rfl⟩
  | _ => simp [same, subjectOf, blame, bind, Except.bind] at h

/-- What is taken as a predicate is a verb. -/
theorem exists_verb {t : Token} (h : r.step table t = .ok r') (before : r.awaiting = .predicate) :
    ∃ v : Verb, t.lexeme = v.lexeme := by
  rw [step, before] at h
  simp only [readPredicate] at h
  cases same : t.lexeme with
  | uri text => exact ⟨.reference (.uri text), rfl⟩
  | prefixed text => exact ⟨.reference (.prefixed text), rfl⟩
  | word text =>
    by_cases a : text = "a"
    · exact ⟨.type, by rw [a]; rfl⟩
    · simp [same, predicateOf, blame, bind, Except.bind, a] at h
  | _ => simp [same, predicateOf, blame, bind, Except.bind] at h

/-- What is taken as an object is a single token, unless it opens a node. -/
theorem exists_plain {t : Token} {predicate : String} (h : r.step table t = .ok r')
    (before : r.awaiting = .object predicate) (noNode : t.lexeme ≠ .openBracket) :
    ∃ p : Plain, t.lexeme = p.lexeme := by
  rw [step, before] at h
  simp only [readObject] at h
  cases same : t.lexeme with
  | uri text => exact ⟨.reference (.uri text), rfl⟩
  | prefixed text => exact ⟨.reference (.prefixed text), rfl⟩
  | quoted text => exact ⟨.quoted text, rfl⟩
  | word text => exact ⟨.word text, rfl⟩
  | openBracket => exact absurd same noNode
  | _ => simp [same, objectOf, blame, bind, Except.bind] at h

/-- A token that ends a list stands at the end of its groups. -/
theorem ended_of_endList {t : Token} (rest : List Token) (h : r.endList t = .ok r') :
    r.Ended (t :: rest) := by
  rw [endList] at h
  split at h
  · rename_i n outer inside closes
    exact Or.inr ⟨by simp [inside], closes⟩
  · cases h
  · rename_i outermost stops
    exact Or.inl ⟨outermost, stops⟩
  · cases h

/-- Behind an opening bracket a token that does not close the node is taken as a predicate. -/
theorem step_node_eq {t : Token} (h : r.awaiting = .node) (open_ : t.lexeme ≠ .closeBracket) :
    r.step table t = Reader.step table { r with awaiting := .predicate } t := by
  rw [step, step, h]
  simp only [open_, if_false]
  rfl

/-- Behind a semicolon a token that neither is one nor ends the list is taken as a predicate. -/
theorem step_group_eq {t : Token} (h : r.awaiting = .group) (noSemicolon : t.lexeme ≠ .semicolon)
    (open_ : r.closes t.lexeme = false) :
    r.step table t = Reader.step table { r with awaiting := .predicate } t := by
  rw [step, step, h]
  simp only [noSemicolon, if_false, open_, Bool.false_eq_true]
  rfl

/-! ### Trees at the front of what is still to be read -/

/-- There are groups at the front of some tokens, and behind them what ends the groups that a reader
is in. -/
def BeginsWithGroups (r : Reader) (tokens : List Token) : Prop :=
  ∃ (g : Groups) (front rest : List Token), tokens = front ++ rest ∧
    front.map Token.lexeme = g.lexemes ∧ r.Ended rest

/-- Whenever a reader awaits a verb and accepts fewer tokens than so many, they begin with groups. -/
def GroupsBelow (table : PrefixTable) (n : Nat) : Prop :=
  ∀ (r : Reader) (tokens : List Token), tokens.length < n → r.awaiting = .predicate →
    Accepts table r tokens → r.BeginsWithGroups tokens

/-- Where an object is awaited, tokens that are accepted start with one. -/
theorem exists_object {tokens : List Token} {predicate : String}
    (below : GroupsBelow table tokens.length) (before : r.awaiting = .object predicate)
    (h : Accepts table r tokens) : ∃ (o : Object) (front rest : List Token),
      tokens = front ++ rest ∧ front.map Token.lexeme = o.lexemes := by
  cases tokens with
  | nil =>
    obtain ⟨-, ending⟩ := h.ended_of_nil (by simp [before])
    simp [before, Awaiting.End] at ending
  | cons t rest =>
    obtain ⟨r₁, taken, accepted⟩ := h.cons
    by_cases opens : t.lexeme = .openBracket
    · have inside : r₁ = r.openNode predicate t.line := by
        have opened_ : r.step table ⟨.openBracket, t.line⟩ = .ok (r.openNode predicate t.line) :=
          step_open t.line before
        rw [← opens] at opened_
        exact Except.ok.inj (taken.symm.trans opened_)
      have node : r₁.awaiting = .node := by rw [inside, openNode]
      have enclosed : r₁.enclosing ≠ [] := by simp [inside, openNode]
      cases rest with
      | nil => exact absurd (accepted.ended_of_nil (by simp [node])).1 enclosed
      | cons u behind =>
        by_cases closes : u.lexeme = .closeBracket
        · exact ⟨.emptyNode, [t, u], behind, rfl, by simp [opens, closes, Object.lexemes]⟩
        · have verb := accepted.of_step (step_node_eq node closes)
          obtain ⟨g, front, last, split_, same, ended⟩ := below _ _ (by simp) rfl verb
          cases last with
          | nil => exact absurd ended enclosed
          | cons c last =>
            have close : c.lexeme = .closeBracket :=
              (ended.resolve_left fun outermost => enclosed outermost.1).2
            refine ⟨.node g, t :: (front ++ [c]), last, by simp [split_], ?_⟩
            simp [Object.lexemes, opens, same, close]
    · obtain ⟨p, same⟩ := exists_plain taken before opens
      exact ⟨.plain p, [t], rest, rfl, by simp [Object.lexemes, same]⟩

/-- Where an object is awaited, tokens that are accepted start with objects, and no comma is left.
-/
theorem exists_objects {n : Nat} (below : GroupsBelow table n) (r : Reader) {tokens : List Token}
    {predicate : String} (short : tokens.length ≤ n) (before : r.awaiting = .object predicate)
    (h : Accepts table r tokens) : ∃ (os : Objects) (front rest : List Token),
      tokens = front ++ rest ∧ front.map Token.lexeme = os.lexemes ∧
        ∀ t ∈ rest.head?, t.lexeme ≠ .comma := by
  induction count : tokens.length using Nat.strongRecOn generalizing r tokens with
  | _ m ih =>
  subst count
  have below' : GroupsBelow table tokens.length := fun r' fewer less =>
    below r' fewer (Nat.lt_of_lt_of_le less short)
  obtain ⟨o, front, rest, rfl, same⟩ := exists_object below' before h
  have accepted := h.behind front same (o.adds table r predicate before)
  cases rest with
  | nil => exact ⟨.one o, front, [], rfl, by rw [same, Objects.lexemes], by simp⟩
  | cons t behind =>
    by_cases comma : t.lexeme = .comma
    · have next := accepted.behind [t] (by simp [comma])
        (takes_one fun line => step_comma line rfl)
      have shorter : behind.length < (front ++ t :: behind).length := by
        simp only [List.length_append, List.length_cons]
        omega
      obtain ⟨os, front', rest', rfl, same', noComma⟩ :=
        ih _ shorter _ (by omega) rfl next rfl
      refine ⟨.more o os, front ++ t :: front', rest', by simp, ?_, noComma⟩
      simp [Objects.lexemes, same, same', comma]
    · exact ⟨.one o, front, t :: behind, rfl, by rw [same, Objects.lexemes], by simpa using comma⟩

/-- Tokens with the semicolons at their front taken off. -/
theorem exists_semicolons (tokens : List Token) : ∃ (k : Nat) (front rest : List Token),
    tokens = front ++ rest ∧ front.map Token.lexeme = List.replicate k .semicolon ∧
      ∀ t ∈ rest.head?, t.lexeme ≠ .semicolon := by
  induction tokens with
  | nil => exact ⟨0, [], [], rfl, rfl, by simp⟩
  | cons t tokens ih =>
    by_cases semicolon : t.lexeme = .semicolon
    · obtain ⟨k, front, rest, rfl, same, noMore⟩ := ih
      exact ⟨k + 1, t :: front, rest, rfl, by simp [same, semicolon, List.replicate_succ], noMore⟩
    · exact ⟨0, [], t :: tokens, rfl, rfl, by simpa using semicolon⟩

/-- Behind the objects of a group stand semicolons, or none, and then what ends the groups or more
of them. -/
theorem exists_behind_objects {n : Nat} (below : GroupsBelow table n) {tokens : List Token}
    {predicate : String} (short : tokens.length ≤ n) (before : r.awaiting = .more predicate)
    (noComma : ∀ t ∈ tokens.head?, t.lexeme ≠ .comma) (h : Accepts table r tokens) :
    ∃ (k : Nat) (front rest : List Token), tokens = front ++ rest ∧ r.Ended rest ∧
      (front.map Token.lexeme = List.replicate k .semicolon ∨
        ∃ g : Groups, front.map Token.lexeme = List.replicate (k + 1) .semicolon ++ g.lexemes) := by
  obtain ⟨k, front, rest, rfl, semicolons, noMore⟩ := exists_semicolons tokens
  cases k with
  | zero =>
    obtain rfl : front = [] := List.map_eq_nil_iff.mp semicolons
    refine ⟨0, [], rest, rfl, ?_, Or.inl rfl⟩
    cases rest with
    | nil => exact (h.ended_of_nil (by simp [before])).1
    | cons t rest =>
      -- Neither a comma nor a semicolon, so the token has to end the groups.
      obtain ⟨r', taken, -⟩ := h.cons
      have comma : t.lexeme ≠ .comma := noComma t rfl
      have semicolon : t.lexeme ≠ .semicolon := noMore t rfl
      rw [step, before] at taken
      have ended : r.endList t = .ok r' := by
        revert taken comma semicolon
        cases t.lexeme <;> simp
      exact ended_of_endList rest ended
  | succ k =>
    have atGroup := h.behind front semicolons (adds_semicolons k (Or.inl ⟨_, before⟩))
    cases rest with
    | nil =>
      exact ⟨k + 1, front, [], rfl, (atGroup.ended_of_nil (by simp)).1, Or.inl semicolons⟩
    | cons t rest =>
      by_cases closes : r.closes t.lexeme = true
      · refine ⟨k + 1, front, t :: rest, rfl, ?_, Or.inl semicolons⟩
        cases inside : r.enclosing with
        | nil => exact Or.inl ⟨inside, by simpa [Reader.closes, inside] using closes⟩
        | cons n outer =>
          exact Or.inr ⟨by simp [inside], by simpa [Reader.closes, inside] using closes⟩
      · have verb := atGroup.of_step (step_group_eq rfl (noMore t rfl) (eq_false_of_ne_true closes))
        have shorter : (t :: rest).length < n := by
          have some_ : 0 < front.length := by
            have := congrArg List.length semicolons
            simp only [List.length_map, List.length_replicate] at this
            omega
          simp only [List.length_append] at short
          omega
        obtain ⟨g, inner, last, split_, same, ended⟩ := below _ _ shorter rfl verb
        refine ⟨k, front ++ inner, last, by rw [split_, List.append_assoc], ended, Or.inr ⟨g, ?_⟩⟩
        rw [List.map_append, semicolons, same]

/-- Where groups are awaited, tokens that are accepted start with groups, however many there are. -/
theorem groupsBelow (n : Nat) : GroupsBelow table n := by
  induction n with
  | zero =>
    intro r tokens less
    exact absurd less (Nat.not_lt_zero _)
  | succ n ih =>
    intro r tokens less before h
    cases tokens with
    | nil =>
      obtain ⟨-, ending⟩ := h.ended_of_nil (by simp [before])
      simp [before, Awaiting.End] at ending
    | cons t rest =>
      obtain ⟨r', taken, -⟩ := h.cons
      obtain ⟨v, verb⟩ := exists_verb taken before
      have atObjects := h.behind [t] (by simp [verb])
        (takes_one fun line => step_verb v line (Or.inl before))
      have short : rest.length ≤ n := by
        simp only [List.length_cons] at less
        omega
      obtain ⟨os, front, behind, rfl, objects, noComma⟩ := exists_objects ih _ short rfl atObjects
      have atMore := atObjects.behind front objects (os.adds table _ _ rfl)
      have shorter : behind.length ≤ n := by
        simp only [List.length_append] at short
        omega
      obtain ⟨k, between, last, rfl, ended, ending | ⟨g, more⟩⟩ :=
        exists_behind_objects ih shorter rfl noComma atMore
      · refine ⟨.last v os k, t :: (front ++ between), last, by simp, ?_, ended⟩
        simp [Groups.lexemes, verb, objects, ending]
      · refine ⟨.more v os k g, t :: (front ++ between), last, by simp, ?_, ended⟩
        simp [Groups.lexemes, verb, objects, more]

variable (table) in
/-- Whatever is accepted where a statement may begin is full stops and statements. -/
theorem exists_statements (r : Reader) (tokens : List Token) (before : r.awaiting = .statement)
    (outermost : r.enclosing = []) (h : Accepts table r tokens) :
    ∃ (k : Nat) (ended : List (Statement × Nat)) (last : Option Statement),
      tokens.map Token.lexeme = List.replicate k .stop ++ statementLexemes ended last := by
  induction count : tokens.length using Nat.strongRecOn generalizing r tokens with
  | _ m ih =>
  subst count
  cases tokens with
  | nil => exact ⟨0, [], none, rfl⟩
  | cons t rest =>
    by_cases stop : t.lexeme = .stop
    · have next := h.behind [t] (by simp [stop])
        (takes_stops table 1 before)
      obtain ⟨k, ended, last, same⟩ := ih _ (by simp) r rest before outermost next rfl
      exact ⟨k + 1, ended, last, by simp [stop, same, List.replicate_succ]⟩
    · obtain ⟨r', taken, -⟩ := h.cons
      obtain ⟨s, subject⟩ := exists_subject taken before stop
      have atGroups := h.behind [t] (by simp [subject])
        (takes_one fun line => step_subject s line before)
      obtain ⟨g, front, behind, rfl, groups, ending⟩ :=
        groupsBelow (rest.length + 1) _ rest (Nat.lt_succ_self _) rfl atGroups
      cases behind with
      | nil =>
        refine ⟨0, [], some ⟨s, g⟩, ?_⟩
        simp [statementLexemes, Statement.lexemes, subject, groups]
      | cons u behind =>
        have ends : u.lexeme = .stop :=
          (ending.resolve_right fun inside => inside.1 outermost).2
        obtain ⟨r₁, read, atEnd, same, -, -⟩ := takes_statement table ⟨s, g⟩ before
        have split_ : t :: (front ++ u :: behind) = (t :: (front ++ [u])) ++ behind := by simp
        rw [split_] at h
        have next := h.behind (t :: (front ++ [u]))
          (by simp [Statement.lexemes, subject, groups, ends])
          (read.append (takes_one fun line => step_stop line atEnd (same.trans outermost)))
        obtain ⟨k, ended, last, others⟩ :=
          ih behind.length (by simp; omega) (r₁.advance [] .statement 0) behind rfl
            (same.trans outermost) next rfl
        refine ⟨0, (⟨s, g⟩, k) :: ended, last, ?_⟩
        rw [statementLexemes_cons]
        simp [Statement.lexemes, subject, groups, ends, others, List.replicate_succ]

end Reader

/-! ## The language that is read -/

/-- Tokens that are read are written from a tree, and the triples are those of the tree. -/
theorem exists_tree_of_statements {tokens : List Token} {ts : List Triple}
    (h : statements table tokens = .ok ts) :
    ∃ b : BlockTree, b.lexemes = tokens.map Token.lexeme ∧ b.triples table = ts := by
  obtain ⟨final, read, finished⟩ := bind_eq_ok_iff.mp h
  obtain ⟨k, ended, last, same⟩ := Reader.exists_statements table Reader.start tokens
    rfl rfl ⟨final, _, ts, read, finished⟩
  have meant : statements table tokens = .ok (BlockTree.triples table ⟨k, ended, last⟩) :=
    statements_of_lexemes ⟨k, ended, last⟩ same
  exact ⟨⟨k, ended, last⟩, same.symm, Except.ok.inj (meant.symm.trans h)⟩

/-- Some tokens are read exactly if they are those of a tree. The tree is the only one then, and what
is read are the triples that it stands for. All other tokens give an error. -/
theorem statements_iff_tree (table : PrefixTable) (tokens : List Token) :
    (∀ ts, statements table tokens = .ok ts ↔
        ∃ b : BlockTree, b.lexemes = tokens.map Token.lexeme ∧ b.triples table = ts) ∧
      (∀ b b' : BlockTree, b.lexemes = tokens.map Token.lexeme →
        b'.lexemes = tokens.map Token.lexeme → b = b') ∧
      ((∃ e, statements table tokens = .error e) ↔
        ∀ b : BlockTree, b.lexemes ≠ tokens.map Token.lexeme) := by
  refine ⟨?_, ?_, ?_⟩
  · intro ts
    constructor
    · exact exists_tree_of_statements
    · rintro ⟨b, same, rfl⟩
      exact statements_of_lexemes b same.symm
  · intro b b' same same'
    exact BlockTree.lexemes_injective (same.trans same'.symm)
  · constructor
    · rintro ⟨e, h⟩ b same
      rw [statements_of_lexemes b same.symm] at h
      cases h
    · intro none_
      cases h : statements table tokens with
      | error e => exact ⟨e, rfl⟩
      | ok ts =>
        obtain ⟨b, same, -⟩ := exists_tree_of_statements h
        exact absurd same (none_ b)

-- Nodes are numbered as they are opened, an inner one before the next one of the outer list.
example :
    BlockTree.triples [] ⟨0, [], some ⟨.uri "s", .last .type
      (.more (.node (.last .type (.one .emptyNode) 0)) (.one .emptyNode)) 0⟩⟩ =
      [.mk "s" typePredicate (.blank "_:b0" [.mk "_:b0" typePredicate (.blank "_:b1" [])]),
        .mk "s" typePredicate (.blank "_:b2" [])] := by
  rfl

end DocGraph.Block
