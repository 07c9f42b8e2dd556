import DocGraph.Block.Reader

/-!
# The grammar of a block

Trees for the grammar that the tokens of a block follow:

* a block is any number of full stops, statements that are each ended by one or more full stops, and
  perhaps a last statement that is not ended;
* a statement is a reference and groups;
* groups are separated by one or more semicolons, which may also stand behind the last one;
* a group is a verb, which is a reference or the word `a`, and objects separated by commas;
* an object is a reference, a quoted text, a word, or a blank node, which is a pair of brackets with
  nothing or with groups between them.

Each tree has the tokens that it is written with, and the triples that it stands for. A blank node
is numbered by the opening brackets that come before its own. `BlockTree.lexemes_injective` says that
the grammar is not ambiguous: no two trees are written with the same tokens.
-/

set_option autoImplicit false

namespace DocGraph.Block

/-! ## Trees -/

/-- A reference, written in full or with a prefix. -/
inductive Reference where
  | uri (text : String)
  | prefixed (text : String)

/-- What a group says of its subject. The word `a` gives a type. -/
inductive Verb where
  | type
  | reference (r : Reference)

/-- An object that is a single token. -/
inductive Plain where
  | reference (r : Reference)
  | quoted (text : String)
  | word (text : String)

mutual

/-- An object: a single token, a pair of brackets with nothing between them, or one with groups. -/
inductive Object where
  | plain (p : Plain)
  | emptyNode
  | node (groups : Groups)

/-- One or more objects. -/
inductive Objects where
  | one (object : Object)
  | more (object : Object) (rest : Objects)

/-- One or more groups. Behind the last one stand as many semicolons as said, and between two groups
one more than said. -/
inductive Groups where
  | last (verb : Verb) (objects : Objects) (semicolons : Nat)
  | more (verb : Verb) (objects : Objects) (semicolons : Nat) (rest : Groups)

end

/-- A statement: a subject and what is said of it. -/
structure Statement where
  subject : Reference
  groups : Groups

/-- A block. Behind a statement that is ended stands one full stop more than said. -/
structure BlockTree where
  stops : Nat
  ended : List (Statement × Nat)
  last : Option Statement

/-! ## The tokens of a tree -/

/-- The token that a reference is written with. -/
def Reference.lexeme : Reference → Lexeme
  | .uri text => .uri text
  | .prefixed text => .prefixed text

/-- The token that a verb is written with. -/
def Verb.lexeme : Verb → Lexeme
  | .type => .word "a"
  | .reference r => r.lexeme

/-- The token that a plain object is. -/
def Plain.lexeme : Plain → Lexeme
  | .reference r => r.lexeme
  | .quoted text => .quoted text
  | .word text => .word text

mutual

/-- The tokens that an object is written with. -/
def Object.lexemes : Object → List Lexeme
  | .plain p => [p.lexeme]
  | .emptyNode => [.openBracket, .closeBracket]
  | .node groups => .openBracket :: (groups.lexemes ++ [.closeBracket])

/-- The tokens that objects are written with, commas included. -/
def Objects.lexemes : Objects → List Lexeme
  | .one object => object.lexemes
  | .more object rest => object.lexemes ++ .comma :: rest.lexemes

/-- The tokens that groups are written with, semicolons included. -/
def Groups.lexemes : Groups → List Lexeme
  | .last verb objects semicolons =>
    verb.lexeme :: (objects.lexemes ++ List.replicate semicolons .semicolon)
  | .more verb objects semicolons rest =>
    verb.lexeme ::
      (objects.lexemes ++ (List.replicate (semicolons + 1) .semicolon ++ rest.lexemes))

end

/-- The tokens that a statement is written with, without the full stop that ends it. -/
def Statement.lexemes (s : Statement) : List Lexeme :=
  s.subject.lexeme :: s.groups.lexemes

/-- The tokens of statements that are ended, and of one that is not. -/
def statementLexemes (ended : List (Statement × Nat)) (last : Option Statement) : List Lexeme :=
  (ended.flatMap fun e => e.1.lexemes ++ List.replicate (e.2 + 1) .stop) ++
    last.elim [] Statement.lexemes

/-- The tokens that a block is written with. -/
def BlockTree.lexemes (b : BlockTree) : List Lexeme :=
  List.replicate b.stops .stop ++ statementLexemes b.ended b.last

/-! ## The triples of a tree -/

/-- How many blank nodes tokens open. -/
def opened (tokens : List Lexeme) : Nat :=
  tokens.count .openBracket

/-- What a shortened reference stands for. Its prefix is what is before its first colon. What a declared
prefix stands for takes the place of it and of the colon; with a prefix that is not declared the
reference stands for itself. -/
def PrefixTable.meaning (table : PrefixTable) (text : String) : String :=
  let colon := text.toList.idxOf ':'
  match table.lookup (String.ofList (text.toList.take colon)) with
  | some base => base ++ String.ofList (text.toList.drop (colon + 1))
  | none => text

/-- What a reference stands for. -/
def Reference.meaning (table : PrefixTable) : Reference → String
  | .uri text => text
  | .prefixed text => table.meaning text

/-- The predicate that a verb stands for. -/
def Verb.meaning (table : PrefixTable) : Verb → String
  | .type => typePredicate
  | .reference r => r.meaning table

/-- The object that a single token stands for. -/
def Plain.meaning (table : PrefixTable) : Plain → Node
  | .reference r => .uri (r.meaning table)
  | .quoted text => .literal text
  | .word text => .literal text

mutual

/-- The object that a tree stands for if so many blank nodes are opened before it. -/
def Object.meaning (table : PrefixTable) (before : Nat) : Object → Node
  | .plain p => p.meaning table
  | .emptyNode => .blank (nodeLabel before) []
  | .node groups =>
    .blank (nodeLabel before) (groups.triples table (nodeLabel before) (before + 1))

/-- The triples of a subject and a predicate with some objects. -/
def Objects.triples (table : PrefixTable) (subject predicate : String) (before : Nat) :
    Objects → List Triple
  | .one object => [.mk subject predicate (object.meaning table before)]
  | .more object rest =>
    .mk subject predicate (object.meaning table before) ::
      rest.triples table subject predicate (before + opened object.lexemes)

/-- The triples of a subject with some groups. -/
def Groups.triples (table : PrefixTable) (subject : String) (before : Nat) : Groups → List Triple
  | .last verb objects _ => objects.triples table subject (verb.meaning table) before
  | .more verb objects _ rest =>
    objects.triples table subject (verb.meaning table) before ++
      rest.triples table subject (before + opened objects.lexemes)

end

/-- The triples of a statement if so many blank nodes are opened before it. -/
def Statement.triples (table : PrefixTable) (before : Nat) (s : Statement) : List Triple :=
  s.groups.triples table (s.subject.meaning table) before

/-- The triples of statements that follow one another. -/
def statementTriples (table : PrefixTable) (before : Nat) : List Statement → List Triple
  | [] => []
  | s :: rest => s.triples table before ++ statementTriples table (before + opened s.lexemes) rest

/-- All statements of a block, ended or not. -/
def BlockTree.statements (b : BlockTree) : List Statement :=
  b.ended.map Prod.fst ++ b.last.toList

/-- The triples that a block stands for. -/
def BlockTree.triples (table : PrefixTable) (b : BlockTree) : List Triple :=
  statementTriples table 0 b.statements

/-! ### Shortened references -/

/-- Cutting at the first colon leaves what is before and behind its position. -/
theorem cutPrefix_eq (text : String) :
    cutPrefix text = (String.ofList (text.toList.take (text.toList.idxOf ':')),
      String.ofList (text.toList.drop (text.toList.idxOf ':' + 1))) := by
  have colon : text.toList.findIdx (fun c => !(c != ':')) = text.toList.idxOf ':' := by
    rw [List.idxOf]
    congr 1
    funext c
    simp [bne]
  unfold cutPrefix
  dsimp only
  rw [List.takeWhile_eq_take_findIdx_not, List.dropWhile_eq_drop_findIdx_not, List.tail_drop, colon]

/-- A shortened reference is written in full as what it stands for. -/
theorem PrefixTable.expand_eq (table : PrefixTable) (text : String) :
    table.expand text = table.meaning text := by
  cases found : table.lookup (String.ofList (text.toList.take (text.toList.idxOf ':'))) with
  | none => simp only [PrefixTable.expand, PrefixTable.meaning, cutPrefix_eq, found]
  | some base => simp only [PrefixTable.expand, PrefixTable.meaning, cutPrefix_eq, found]

/-- The same as the meaning of a reference. -/
theorem Reference.meaning_prefixed (table : PrefixTable) (text : String) :
    (Reference.prefixed text).meaning table = table.expand text :=
  (table.expand_eq text).symm

/-- The parts of a reference around its first colon. -/
theorem cutPrefix_append {name rest : String} (first : ':' ∉ name.toList) :
    cutPrefix (name ++ ":" ++ rest) = (name, rest) := by
  have before : ∀ c ∈ name.toList, (c != ':') = true :=
    fun c member => bne_iff_ne.mpr fun same => first (same ▸ member)
  have whole : (name ++ ":" ++ rest).toList = name.toList ++ ':' :: rest.toList := by simp
  unfold cutPrefix
  dsimp only
  rw [whole, List.takeWhile_append_of_pos before, List.dropWhile_append_of_pos before]
  simp

/-- A declared prefix and the first colon give way to what the prefix stands for. -/
theorem PrefixTable.meaning_declared {table : PrefixTable} {name rest base : String}
    (first : ':' ∉ name.toList) (found : table.lookup name = some base) :
    table.meaning (name ++ ":" ++ rest) = base ++ rest := by
  rw [← expand_eq, expand, cutPrefix_append first]
  dsimp only
  rw [found]

/-- With a prefix that is not declared a reference stands for itself. -/
theorem PrefixTable.meaning_undeclared {table : PrefixTable} {name rest : String}
    (first : ':' ∉ name.toList) (missing : table.lookup name = none) :
    table.meaning (name ++ ":" ++ rest) = name ++ ":" ++ rest := by
  rw [← expand_eq, expand, cutPrefix_append first]
  dsimp only
  rw [missing]

/-! ### Tokens of statements -/

/-- The tokens of the statements of a block are tokens of the block. -/
theorem BlockTree.statements_subset (b : BlockTree) :
    b.statements.flatMap Statement.lexemes ⊆ b.lexemes := by
  intro l member
  obtain ⟨s, inside, known⟩ := List.mem_flatMap.mp member
  rw [BlockTree.lexemes, statementLexemes]
  rcases List.mem_append.mp inside with ended | last
  · obtain ⟨e, inEnded, rfl⟩ := List.mem_map.mp ended
    have tokens : l ∈ e.1.lexemes ++ List.replicate (e.2 + 1) .stop :=
      List.mem_append_left _ known
    have among : l ∈ b.ended.flatMap fun e => e.1.lexemes ++ List.replicate (e.2 + 1) .stop :=
      List.mem_flatMap.mpr ⟨e, inEnded, tokens⟩
    exact List.mem_append_right _ (List.mem_append_left _ among)
  · rw [Option.mem_toList.mp last]
    exact List.mem_append_right _ (List.mem_append_right _ known)

/-! ## How trees begin -/

/-- Whether a token can end groups. -/
def Lexeme.EndsGroups (t : Lexeme) : Prop :=
  t = .stop ∨ t = .closeBracket

/-- No two references are written with the same token. -/
theorem Reference.lexeme_injective {r r' : Reference} (h : r.lexeme = r'.lexeme) : r = r' := by
  cases r <;> cases r' <;> simp_all [Reference.lexeme]

/-- No two verbs are written with the same token. -/
theorem Verb.lexeme_injective {v v' : Verb} (h : v.lexeme = v'.lexeme) : v = v' := by
  rcases v with _ | (_ | _) <;> rcases v' with _ | (_ | _) <;>
    simp_all [Verb.lexeme, Reference.lexeme]

/-- No two plain objects are the same token. -/
theorem Plain.lexeme_injective {p p' : Plain} (h : p.lexeme = p'.lexeme) : p = p' := by
  rcases p with (_ | _) | _ | _ <;> rcases p' with (_ | _) | _ | _ <;>
    simp_all [Plain.lexeme, Reference.lexeme]

/-- A reference is neither a full stop nor a bracket. -/
theorem Reference.lexeme_ne (r : Reference) : r.lexeme ≠ .stop ∧ r.lexeme ≠ .openBracket := by
  cases r <;> simp [Reference.lexeme]

/-- A verb is no sign and no bracket. -/
theorem Verb.lexeme_ne (v : Verb) :
    v.lexeme ≠ .semicolon ∧ v.lexeme ≠ .comma ∧ v.lexeme ≠ .stop ∧ v.lexeme ≠ .closeBracket ∧
      v.lexeme ≠ .openBracket := by
  rcases v with _ | (_ | _) <;> simp [Verb.lexeme, Reference.lexeme]

/-- A plain object opens no node. -/
theorem Plain.lexeme_ne (p : Plain) : p.lexeme ≠ .openBracket := by
  rcases p with (_ | _) | _ | _ <;> simp [Plain.lexeme, Reference.lexeme]

/-- Groups start with a verb. -/
theorem Groups.lexemes_eq_cons (g : Groups) :
    ∃ (v : Verb) (rest : List Lexeme), g.lexemes = v.lexeme :: rest := by
  cases g with
  | last verb objects semicolons => exact ⟨verb, _, by rw [Groups.lexemes]⟩
  | more verb objects semicolons rest => exact ⟨verb, _, by rw [Groups.lexemes]⟩

/-! ## No two trees are written alike -/

/-- How often a sign stands before something else can be told. -/
theorem replicate_append_inj {α : Type} {x : α} {k k' : Nat} {s s' : List α}
    (h : List.replicate k x ++ s = List.replicate k' x ++ s') (hs : s.head? ≠ some x)
    (hs' : s'.head? ≠ some x) : k = k' ∧ s = s' := by
  induction k generalizing k' with
  | zero =>
    cases k' with
    | zero => exact ⟨rfl, h⟩
    | succ k' =>
      rw [List.replicate_succ, List.replicate_zero, List.nil_append] at h
      simp [h] at hs
  | succ k ih =>
    cases k' with
    | zero =>
      rw [List.replicate_succ, List.replicate_zero, List.nil_append] at h
      simp [← h] at hs'
    | succ k' =>
      rw [List.replicate_succ, List.replicate_succ, List.cons_append, List.cons_append] at h
      obtain ⟨rfl, rfl⟩ := ih (List.tail_eq_of_cons_eq h)
      exact ⟨rfl, rfl⟩

/-- Behind semicolons there is no comma, unless it comes after none. -/
theorem head_semicolons_ne_comma (k : Nat) {s : List Lexeme} (hs : s.head? ≠ some .comma) :
    (List.replicate k Lexeme.semicolon ++ s).head? ≠ some .comma := by
  cases k with
  | zero => simpa using hs
  | succ k => simp [List.replicate_succ]

/-- The token behind groups is neither a sign between groups nor a verb. -/
theorem head_ne_of_endsGroups {s : List Lexeme} (hs : ∀ l ∈ s.head?, l.EndsGroups) :
    s.head? ≠ some .comma ∧ s.head? ≠ some .semicolon ∧ ∀ v : Verb, s.head? ≠ some v.lexeme := by
  cases s with
  | nil => simp
  | cons l rest =>
    rcases hs l rfl with rfl | rfl
    · refine ⟨by simp, by simp, fun v same => ?_⟩
      exact v.lexeme_ne.2.2.1 (Option.some.inj same).symm
    · refine ⟨by simp, by simp, fun v same => ?_⟩
      exact v.lexeme_ne.2.2.2.1 (Option.some.inj same).symm

/-- Groups start neither with a comma nor with a semicolon. -/
theorem Groups.head_append_ne (g : Groups) (s : List Lexeme) :
    (g.lexemes ++ s).head? ≠ some .comma ∧ (g.lexemes ++ s).head? ≠ some .semicolon := by
  obtain ⟨v, rest, hv⟩ := g.lexemes_eq_cons
  simpa [hv] using ⟨v.lexeme_ne.2.1, v.lexeme_ne.1⟩

mutual

/-- An object can be told from what comes behind it. -/
theorem Object.lexemes_append_inj {a b : Object} {s t : List Lexeme}
    (h : a.lexemes ++ s = b.lexemes ++ t) : a = b ∧ s = t := by
  match a, b with
  | .plain p, .plain p' =>
    simp only [Object.lexemes, List.singleton_append, List.cons.injEq] at h
    exact ⟨by rw [Plain.lexeme_injective h.1], h.2⟩
  | .plain p, .emptyNode => simp [Object.lexemes, p.lexeme_ne] at h
  | .plain p, .node g => simp [Object.lexemes, p.lexeme_ne] at h
  | .emptyNode, .plain p => simp [Object.lexemes, p.lexeme_ne.symm] at h
  | .emptyNode, .emptyNode => simpa [Object.lexemes] using h
  | .emptyNode, .node g =>
    obtain ⟨v, rest, hv⟩ := g.lexemes_eq_cons
    simp [Object.lexemes, hv, v.lexeme_ne.2.2.2.1.symm] at h
  | .node g, .plain p => simp [Object.lexemes, p.lexeme_ne.symm] at h
  | .node g, .emptyNode =>
    obtain ⟨v, rest, hv⟩ := g.lexemes_eq_cons
    simp [Object.lexemes, hv, v.lexeme_ne.2.2.2.1] at h
  | .node g, .node g' =>
    have inner : g.lexemes ++ .closeBracket :: s = g'.lexemes ++ .closeBracket :: t := by
      simpa [Object.lexemes] using h
    obtain ⟨rfl, rest⟩ := Groups.lexemes_append_inj inner (by simp [Lexeme.EndsGroups])
      (by simp [Lexeme.EndsGroups])
    exact ⟨rfl, List.tail_eq_of_cons_eq rest⟩

/-- Objects can be told from what comes behind them, if it is no comma. -/
theorem Objects.lexemes_append_inj {a b : Objects} {s t : List Lexeme}
    (h : a.lexemes ++ s = b.lexemes ++ t) (hs : s.head? ≠ some .comma)
    (ht : t.head? ≠ some .comma) : a = b ∧ s = t := by
  match a, b with
  | .one o, .one o' =>
    simp only [Objects.lexemes] at h
    obtain ⟨rfl, rfl⟩ := Object.lexemes_append_inj h
    exact ⟨rfl, rfl⟩
  | .one o, .more o' rest =>
    simp only [Objects.lexemes, List.append_assoc] at h
    obtain ⟨-, rfl⟩ := Object.lexemes_append_inj h
    simp at hs
  | .more o rest, .one o' =>
    simp only [Objects.lexemes, List.append_assoc] at h
    obtain ⟨-, rfl⟩ := Object.lexemes_append_inj h
    simp at ht
  | .more o rest, .more o' rest' =>
    simp only [Objects.lexemes, List.append_assoc] at h
    obtain ⟨rfl, behind⟩ := Object.lexemes_append_inj h
    rw [List.cons_append, List.cons_append] at behind
    obtain ⟨rfl, rfl⟩ := Objects.lexemes_append_inj (List.tail_eq_of_cons_eq behind) hs ht
    exact ⟨rfl, rfl⟩

/-- Groups can be told from what comes behind them, if it ends them. -/
theorem Groups.lexemes_append_inj {a b : Groups} {s t : List Lexeme}
    (h : a.lexemes ++ s = b.lexemes ++ t) (hs : ∀ l ∈ s.head?, l.EndsGroups)
    (ht : ∀ l ∈ t.head?, l.EndsGroups) : a = b ∧ s = t := by
  obtain ⟨sComma, sSemicolon, sVerb⟩ := head_ne_of_endsGroups hs
  obtain ⟨tComma, tSemicolon, tVerb⟩ := head_ne_of_endsGroups ht
  match a, b with
  | .last v os k, .last v' os' k' =>
    simp only [Groups.lexemes, List.cons_append, List.append_assoc, List.cons.injEq] at h
    obtain ⟨hv, h⟩ := h
    obtain ⟨rfl, behind⟩ := Objects.lexemes_append_inj h (head_semicolons_ne_comma k sComma)
      (head_semicolons_ne_comma k' tComma)
    obtain ⟨rfl, rfl⟩ := replicate_append_inj behind sSemicolon tSemicolon
    rw [Verb.lexeme_injective hv]
    exact ⟨rfl, rfl⟩
  | .last v os k, .more v' os' k' g =>
    simp only [Groups.lexemes, List.cons_append, List.append_assoc, List.cons.injEq] at h
    obtain ⟨-, behind⟩ := Objects.lexemes_append_inj h.2 (head_semicolons_ne_comma k sComma)
      (head_semicolons_ne_comma _ (g.head_append_ne t).1)
    obtain ⟨-, rfl⟩ := replicate_append_inj behind sSemicolon (g.head_append_ne t).2
    -- What stands behind the last group would have to be a verb.
    obtain ⟨w, rest, hw⟩ := g.lexemes_eq_cons
    exact absurd (by simp [hw]) (sVerb w)
  | .more v os k g, .last v' os' k' =>
    simp only [Groups.lexemes, List.cons_append, List.append_assoc, List.cons.injEq] at h
    obtain ⟨-, behind⟩ := Objects.lexemes_append_inj h.2
      (head_semicolons_ne_comma _ (g.head_append_ne s).1) (head_semicolons_ne_comma k' tComma)
    obtain ⟨-, rfl⟩ := replicate_append_inj behind (g.head_append_ne s).2 tSemicolon
    obtain ⟨w, rest, hw⟩ := g.lexemes_eq_cons
    exact absurd (by simp [hw]) (tVerb w)
  | .more v os k g, .more v' os' k' g' =>
    simp only [Groups.lexemes, List.cons_append, List.append_assoc, List.cons.injEq] at h
    obtain ⟨hv, h⟩ := h
    obtain ⟨rfl, behind⟩ := Objects.lexemes_append_inj h
      (head_semicolons_ne_comma _ (g.head_append_ne s).1)
      (head_semicolons_ne_comma _ (g'.head_append_ne t).1)
    obtain ⟨same, further⟩ :=
      replicate_append_inj behind (g.head_append_ne s).2 (g'.head_append_ne t).2
    obtain ⟨rfl, rfl⟩ := Groups.lexemes_append_inj further hs ht
    rw [Verb.lexeme_injective hv, Nat.succ_inj.mp same]
    exact ⟨rfl, rfl⟩

end

/-- A statement can be told from what comes behind it, if it ends groups. -/
theorem Statement.lexemes_append_inj {a b : Statement} {s t : List Lexeme}
    (h : a.lexemes ++ s = b.lexemes ++ t) (hs : ∀ l ∈ s.head?, l.EndsGroups)
    (ht : ∀ l ∈ t.head?, l.EndsGroups) : a = b ∧ s = t := by
  obtain ⟨subject, groups⟩ := a
  obtain ⟨subject', groups'⟩ := b
  simp only [Statement.lexemes, List.cons_append, List.cons.injEq] at h
  obtain ⟨rfl, rfl⟩ := Groups.lexemes_append_inj h.2 hs ht
  rw [Reference.lexeme_injective h.1]
  exact ⟨rfl, rfl⟩

/-- Statements begin with no full stop. -/
theorem statementLexemes_head_ne (ended : List (Statement × Nat)) (last : Option Statement) :
    (statementLexemes ended last).head? ≠ some .stop := by
  cases ended with
  | nil =>
    cases last with
    | none => simp [statementLexemes]
    | some s => simpa [statementLexemes, Statement.lexemes] using s.subject.lexeme_ne.1
  | cons e rest => simpa [statementLexemes, Statement.lexemes] using e.1.subject.lexeme_ne.1

/-- The first statement is written before the others, with its full stops. -/
theorem statementLexemes_cons (s : Statement) (k : Nat) (rest : List (Statement × Nat))
    (last : Option Statement) :
    statementLexemes ((s, k) :: rest) last =
      s.lexemes ++ (List.replicate (k + 1) .stop ++ statementLexemes rest last) := by
  simp [statementLexemes]

/-- Full stops end groups. -/
theorem endsGroups_head_stops (k : Nat) (s : List Lexeme) :
    ∀ l ∈ (List.replicate (k + 1) Lexeme.stop ++ s).head?, l.EndsGroups := by
  simp [List.replicate_succ, Lexeme.EndsGroups]

/-- Behind a statement that is not ended stands nothing, so it is not one that is ended. -/
theorem last_ne_ended (last last' : Option Statement) (s : Statement) (k : Nat)
    (rest : List (Statement × Nat)) :
    statementLexemes [] last ≠ statementLexemes ((s, k) :: rest) last' := by
  intro h
  rw [statementLexemes_cons] at h
  cases last with
  | none => simp [statementLexemes, Statement.lexemes] at h
  | some s' =>
    have same : s'.lexemes ++ [] = s.lexemes ++ (List.replicate (k + 1) .stop ++
        statementLexemes rest last') := by simpa [statementLexemes] using h
    have behind := (Statement.lexemes_append_inj same (by simp) (endsGroups_head_stops _ _)).2
    simp [List.replicate_succ] at behind

/-- Statements can be told from their tokens. -/
theorem statementLexemes_injective {ended ended' : List (Statement × Nat)}
    {last last' : Option Statement}
    (h : statementLexemes ended last = statementLexemes ended' last') :
    ended = ended' ∧ last = last' := by
  induction ended generalizing ended' with
  | nil =>
    cases ended' with
    | cons e rest => exact absurd h (last_ne_ended last last' e.1 e.2 rest)
    | nil =>
      refine ⟨rfl, ?_⟩
      simp only [statementLexemes, List.flatMap_nil, List.nil_append] at h
      match last, last' with
      | none, none => rfl
      | none, some s => simp [Statement.lexemes] at h
      | some s, none => simp [Statement.lexemes] at h
      | some s, some s' =>
        have same : s.lexemes ++ [] = s'.lexemes ++ [] := by simpa using h
        rw [(Statement.lexemes_append_inj same (by simp) (by simp)).1]
  | cons e rest ih =>
    cases ended' with
    | nil => exact absurd h.symm (last_ne_ended last' last e.1 e.2 rest)
    | cons e' rest' =>
      obtain ⟨s, k⟩ := e
      obtain ⟨s', k'⟩ := e'
      rw [statementLexemes_cons, statementLexemes_cons] at h
      obtain ⟨rfl, behind⟩ := Statement.lexemes_append_inj h (endsGroups_head_stops _ _)
        (endsGroups_head_stops _ _)
      obtain ⟨same, further⟩ := replicate_append_inj behind (statementLexemes_head_ne rest last)
        (statementLexemes_head_ne rest' last')
      obtain ⟨rfl, rfl⟩ := ih further
      rw [Nat.succ_inj.mp same]
      exact ⟨rfl, rfl⟩

/-- Blocks that are written with the same tokens are the same. -/
theorem BlockTree.lexemes_injective {b b' : BlockTree} (h : b.lexemes = b'.lexemes) : b = b' := by
  obtain ⟨stops, ended, last⟩ := b
  obtain ⟨stops', ended', last'⟩ := b'
  obtain ⟨rfl, rest⟩ := replicate_append_inj h (statementLexemes_head_ne ended last)
    (statementLexemes_head_ne ended' last')
  obtain ⟨rfl, rfl⟩ := statementLexemes_injective rest
  rfl

end DocGraph.Block
