import DocGraph.Proofs.Block.Language
import DocGraph.Proofs.Block.Printing

/-!
# Reading and printing

Triples that are read from a block can be printed without loss, and printing them gives a block from
which they are read again. What tokens hold of a line is `Clean`: a line has no break in it, and what
ends a token is not in it. The triples of a tree with clean tokens can be printed, by induction on the
tree, since the nodes of a tree are numbered by the opening brackets before them. As the tokens of a
block that is read are those of a tree, `parse_print` follows.
-/

set_option autoImplicit false

namespace DocGraph.Block

open Text (Unbroken)

/-! ## What tokens hold -/

/-- What a token holds can be printed. -/
def Lexeme.Clean : Lexeme → Prop
  | .uri text => IsReference text
  | .prefixed text => IsReference text
  | .quoted text => IsQuotable text
  | .word text => IsQuotable text
  | _ => True

/-- What breaks no line can be quoted. -/
theorem quotable_of_not_isLineBreak {c : Char} (h : Text.isLineBreak c = false) : Quotable c := by
  intro broken
  rw [h] at broken
  cases broken

/-- The text of a reference can be quoted. -/
theorem isQuotable_of_isReference {text : String} (h : IsReference text) : IsQuotable text := by
  intro c known
  exact quotable_of_not_isLineBreak (h c known).2

/-- A text on one line without a closing bracket can be a reference. -/
theorem isReference_ofList {s : List Char} (closed : '>' ∉ s) (unbroken : Unbroken s) :
    IsReference (String.ofList s) := by
  intro c known
  rw [String.toList_ofList] at known
  refine ⟨?_, unbroken c known⟩
  rintro rfl
  exact closed known

/-- A word on one line without a closing bracket is clean. -/
theorem clean_ofWord {w : List Char} (closed : '>' ∉ w) (unbroken : Unbroken w) :
    (Lexeme.ofWord w).Clean := by
  have reference := isReference_ofList closed unbroken
  unfold Lexeme.ofWord
  split
  · split
    · exact isQuotable_of_isReference reference
    · exact reference
  · exact isQuotable_of_isReference reference

/-- What an escape stands for can be quoted. -/
theorem quotable_unescape {c : Char} (h : Text.isLineBreak c = false) : Quotable (unescape c) := by
  unfold unescape
  split
  · exact fun _ => Or.inl rfl
  split
  · exact quotable_of_not_isLineBreak (by decide)
  split
  · exact fun _ => Or.inr rfl
  · exact quotable_of_not_isLineBreak h

/-- What is read between quotes on one line can be quoted, and one line is left. -/
theorem readQuotedFrom_clean {value s text after : List Char}
    (h : readQuotedFrom value s = some (text, after)) (before : ∀ c ∈ value, Quotable c)
    (unbroken : Unbroken s) : (∀ c ∈ text, Quotable c) ∧ Unbroken after := by
  fun_induction readQuotedFrom value s with
  | case1 => cases h
  | case2 value c rest ih =>
    have whole : Text.isLineBreak c = false := unbroken.tail c List.mem_cons_self
    exact ih h (List.forall_mem_cons.mpr ⟨quotable_unescape whole, before⟩) unbroken.tail.tail
  | case3 value rest =>
    cases h
    exact ⟨fun c known => before c (List.mem_reverse.mp known), unbroken.tail⟩
  | case4 value c rest _ _ ih =>
    obtain ⟨whole, others⟩ := List.forall_mem_cons.mp unbroken
    exact ih h (List.forall_mem_cons.mpr ⟨quotable_of_not_isLineBreak whole, before⟩) others

/-- Behind the name of a datatype one line is left. -/
theorem unbroken_afterDatatype {s : List Char} (h : Unbroken s) : Unbroken (afterDatatype s) := by
  have rest := h.dropWhile fun c => !endsWord c
  unfold afterDatatype
  dsimp only
  split
  · exact List.forall_mem_cons.mpr ⟨by decide, rest⟩
  · exact rest

/-- Behind a closing bracket one line is left. -/
theorem unbroken_afterUri {s : List Char} (h : Unbroken s) : Unbroken (afterUri s) :=
  (h.dropWhile _).of_subset (List.tail_suffix _).subset

/-- Behind a language tag or a datatype one line is left. -/
theorem unbroken_afterSuffix {s : List Char} (h : Unbroken s) : Unbroken (afterSuffix s) := by
  unfold afterSuffix
  split
  · exact h.tail.dropWhile _
  · exact unbroken_afterUri h.tail.tail.tail
  · exact unbroken_afterDatatype h.tail.tail
  · exact h

/-- What is read between brackets on one line can be a reference, and one line is left. -/
theorem readUri_clean {s text after : List Char} (h : readUri s = some (text, after))
    (unbroken : Unbroken s) : '>' ∉ text ∧ Unbroken text ∧ Unbroken after := by
  have behind : Unbroken (s.dropWhile (· != '>')) := unbroken.dropWhile _
  unfold readUri at h
  split at h
  · cases h
  · rename_i x rest left
    cases h
    rw [left] at behind
    have closed := List.all_eq_true.mp (@List.all_takeWhile _ (· != '>') s)
    refine ⟨fun known => ?_, unbroken.of_subset (List.takeWhile_prefix _).subset, behind.tail⟩
    simpa using closed '>' known

/-- The tokens of a word on one line are clean. -/
theorem wordLexemes_clean {w : List Char} (closed : '>' ∉ w) (unbroken : Unbroken w)
    (rest : List Char) : ∀ l ∈ wordLexemes w rest, l.Clean := by
  unfold wordLexemes
  split
  · have part : w.dropLast ⊆ w := (List.dropLast_prefix w).subset
    have front := clean_ofWord (fun known => closed (part known)) (unbroken.of_subset part)
    exact List.forall_mem_cons.mpr ⟨front, List.forall_mem_singleton.mpr trivial⟩
  · exact List.forall_mem_singleton.mpr (clean_ofWord closed unbroken)

/-- What a step finds on one line is clean, and one line is left. -/
theorem scan_clean {c : Char} {rest after : List Char} {next : List Lexeme}
    (h : scan c rest = .ok (next, after)) (unbroken : Unbroken (c :: rest)) :
    (∀ l ∈ next, l.Clean) ∧ Unbroken after := by
  have others : Unbroken rest := unbroken.tail
  cases scanned_of_scan h with
  | blank => exact ⟨List.forall_mem_nil _, others⟩
  | reference bracket read =>
    obtain ⟨closed, whole, left⟩ := readUri_clean read others
    exact ⟨List.forall_mem_singleton.mpr (isReference_ofList closed whole), left⟩
  | quoted quote read =>
    obtain ⟨⟨value', rest'⟩, quoted, same⟩ := Option.map_eq_some_iff.mp read
    cases same
    obtain ⟨quotable, left⟩ := readQuotedFrom_clean quoted (List.forall_mem_nil _) others
    refine ⟨List.forall_mem_singleton.mpr ?_, unbroken_afterSuffix left⟩
    intro d known
    rw [String.toList_ofList] at known
    exact quotable d known
  -- The five signs hold no text.
  | openBracket | closeBracket | semicolon | comma | stop =>
    exact ⟨List.forall_mem_singleton.mpr trivial, others⟩
  | word =>
    have closed : '>' ∉ (c :: rest).takeWhile fun c => !endsWord c := by
      intro known
      have outside := List.all_eq_true.mp List.all_takeWhile '>' known
      simp [endsWord] at outside
    have word := unbroken.of_subset (List.takeWhile_prefix fun c => !endsWord c).subset
    exact ⟨wordLexemes_clean closed word _, unbroken.dropWhile _⟩

/-- The tokens of one line are clean. -/
theorem lexemesFrom_clean {found ls : List Lexeme} {s : List Char}
    (h : lexemesFrom found s = .ok ls) (before : ∀ l ∈ found, l.Clean) (unbroken : Unbroken s) :
    ∀ l ∈ ls, l.Clean := by
  fun_induction lexemesFrom found s with
  | case1 found =>
    cases h
    exact fun l known => before l (List.mem_reverse.mp known)
  | case2 found c rest fault found_ => cases h
  | case3 found rest next after found_ => cases h
  | case4 found c rest next after found_ moves ih =>
    obtain ⟨clean, left⟩ := scan_clean found_ unbroken
    refine ih h (List.forall_mem_append.mpr ⟨?_, before⟩) left
    exact fun l known => clean l (List.mem_reverse.mp known)

/-! ## What is taken in -/

/-- The prefixes of a table stand for references that can be printed. -/
def PrefixTable.Clean (table : PrefixTable) : Prop :=
  ∀ binding ∈ table, IsReference binding.2

/-- The prefixes that every block may use stand for references. -/
theorem standard_clean : PrefixTable.Clean .standard := by
  unfold PrefixTable.Clean
  decide

/-- What has been taken in from lines can be printed. -/
structure Lexed.Clean (acc : Lexed) : Prop where
  prefixes : acc.prefixes.Clean
  tokens : ∀ t ∈ acc.tokens, t.lexeme.Clean

/-- What is behind the name of a prefix was there before. -/
theorem prefixName?_subset {s name after : List Char} (h : prefixName? s = some (name, after)) :
    after ⊆ s := by
  unfold prefixName? at h
  split at h
  · cases h
    exact List.subset_cons_self _ _
  · rename_i c rest _
    split at h
    · split at h
      · rename_i behind left
        cases h
        have part : ':' :: after ⊆ rest := left ▸ (List.dropWhile_suffix continuesPrefix).subset
        exact fun d known => List.mem_cons_of_mem c (part (List.mem_cons_of_mem _ known))
      · cases h
    · cases h
  · cases h

/-- What is declared on one line stands for a reference. -/
theorem declaration_clean {line : List Char} {binding : String × String}
    (h : declaration? line = some binding) (unbroken : Unbroken line) : IsReference binding.2 := by
  unfold declaration? at h
  obtain ⟨rest, begins, h⟩ := Option.bind_eq_some_iff.mp h
  obtain ⟨-, -, h⟩ := Option.bind_eq_some_iff.mp h
  obtain ⟨⟨name, local_⟩, named, h⟩ := Option.bind_eq_some_iff.mp h
  -- What a prefix stands for is read from a part of the line, behind the name.
  have behind : Unbroken rest := by
    rw [← List.append_eq_of_isPrefixOf?_eq_some begins, Text.unbroken_append] at unbroken
    exact unbroken.2
  have front : Unbroken (Text.trimFront local_) :=
    ((behind.dropWhile Text.isBlank).of_subset (prefixName?_subset named)).dropWhile Text.isBlank
  dsimp only at h
  split at h
  · rename_i inner opens
    rw [opens] at front
    obtain ⟨⟨base, after⟩, read, h⟩ := Option.bind_eq_some_iff.mp h
    obtain ⟨-, -, same⟩ := Option.bind_eq_some_iff.mp h
    cases same
    obtain ⟨closed, whole, -⟩ := readUri_clean read front.tail
    exact isReference_ofList closed whole
  · cases h

/-- What is taken in from one line is clean. -/
theorem addLine_clean {acc next : Lexed} {number : Int} {line : List Char}
    (h : acc.addLine number line = .ok next) (clean : acc.Clean) (unbroken : Unbroken line) :
    next.Clean := by
  cases lineTaken_of_addLine h with
  | pass => exact clean
  | declaration counts begins declared =>
    have base := declaration_clean declared unbroken
    exact ⟨List.forall_mem_cons.mpr ⟨base, clean.prefixes⟩, clean.tokens⟩
  | tokens counts plain read =>
    have lexemes := lexemesFrom_clean read (List.forall_mem_nil _) unbroken
    refine ⟨clean.prefixes, List.forall_mem_append.mpr ⟨?_, clean.tokens⟩⟩
    intro t known
    obtain ⟨l, inside, rfl⟩ := List.mem_map.mp (List.mem_reverse.mp known)
    exact lexemes l inside

/-- What is taken in from lines is clean. -/
theorem addLines_clean {acc final : Lexed} {number : Int} {lines : List (List Char)}
    (h : acc.addLines number lines = .ok final) (clean : acc.Clean)
    (unbroken : ∀ line ∈ lines, Unbroken line) : final.Clean := by
  induction lines generalizing acc number with
  | nil =>
    cases h
    exact clean
  | cons line rest ih =>
    obtain ⟨whole, others⟩ := List.forall_mem_cons.mp unbroken
    rw [Lexed.addLines_cons] at h
    obtain ⟨next, taken, h⟩ := bind_eq_ok_iff.mp h
    exact ih h (addLine_clean taken clean (Text.unbroken_trim whole)) others

/-- What is read from a block stands for a tree with clean tokens. -/
theorem exists_tree_of_parse {block : String} {number : Int} {ts : List Triple}
    (h : parse block number = .ok ts) : ∃ (table : PrefixTable) (b : BlockTree),
      table.Clean ∧ (∀ l ∈ b.lexemes, l.Clean) ∧ b.triples table = ts := by
  obtain ⟨lexed, taken, read⟩ := bind_eq_ok_iff.mp h
  have clean : lexed.Clean :=
    addLines_clean taken ⟨standard_clean, List.forall_mem_nil _⟩ fun _ => Text.unbroken_of_mem_lines
  obtain ⟨b, same, meant⟩ := exists_tree_of_statements (mapError_eq_ok_iff.mp read)
  refine ⟨lexed.prefixes, b, clean.prefixes, ?_, meant⟩
  intro l known
  rw [same] at known
  obtain ⟨t, inside, rfl⟩ := List.mem_map.mp known
  exact clean.tokens t (List.mem_reverse.mp inside)

/-! ## The triples of a tree -/

/-- Triples can be written if both parts of them can. -/
theorem allWritable_append {a b : List Triple} :
    AllWritable (a ++ b) ↔ AllWritable a ∧ AllWritable b := by
  induction a with
  | nil => simp [AllWritable]
  | cons t a ih => rw [List.cons_append, AllWritable, AllWritable, ih, and_assoc]

/-- The labels of two lists of triples stand one after the other. -/
theorem labelsOfAll_append (a b : List Triple) :
    labelsOfAll (a ++ b) = labelsOfAll a ++ labelsOfAll b := by
  induction a with
  | nil => rfl
  | cons t a ih => rw [List.cons_append, labelsOfAll, labelsOfAll, ih, List.append_assoc]

/-- A node that can be printed, with so many blank nodes in it that are counted from a number on. -/
structure SoundNode (n k : Nat) (o : Node) : Prop where
  writable : o.Writable
  numbered : Numbered n o.labels
  count : o.labels.length = k

/-- Triples about one subject that can be printed, with so many blank nodes in them that are counted
from a number on. -/
structure Sound (subject : String) (n k : Nat) (ts : List Triple) : Prop where
  about : ∀ t ∈ ts, t.subject = subject
  writable : AllWritable ts
  numbered : Numbered n (labelsOfAll ts)
  count : (labelsOfAll ts).length = k

variable {subject predicate : String} {n k k' : Nat}

/-- A sound object makes a sound triple. -/
theorem Sound.one {o : Node} (h : SoundNode n k o) (named : IsReference predicate) :
    Sound subject n k [.mk subject predicate o] := by
  have labels : labelsOfAll [.mk subject predicate o] = o.labels := by
    simp [labelsOfAll, Triple.labels]
  refine ⟨by simp [Triple.subject], ?_, ?_, ?_⟩
  · exact ⟨⟨named, h.writable⟩, trivial⟩
  · rw [labels]
    exact h.numbered
  · rw [labels]
    exact h.count

/-- Sound triples are followed by sound ones that count on. -/
theorem Sound.append {a b : List Triple} (first : Sound subject n k a)
    (rest : Sound subject (n + k) k' b) : Sound subject n (k + k') (a ++ b) := by
  refine ⟨List.forall_mem_append.mpr ⟨first.about, rest.about⟩,
    allWritable_append.mpr ⟨first.writable, rest.writable⟩, ?_, ?_⟩
  · rw [labelsOfAll_append, numbered_append, first.count]
    exact ⟨first.numbered, rest.numbered⟩
  · rw [labelsOfAll_append, List.length_append, first.count, rest.count]

variable {table : PrefixTable}

/-- What is written in full of a clean reference can be a reference. -/
theorem expand_clean (known : table.Clean) {reference : String} (h : IsReference reference) :
    IsReference (table.expand reference) := by
  unfold PrefixTable.expand cutPrefix
  dsimp only
  split
  · rename_i base found
    obtain ⟨front, behind, whole, -⟩ := List.lookup_eq_some_iff.mp found
    have base_ : IsReference base :=
      known _ (whole ▸ List.mem_append_right front List.mem_cons_self)
    intro c inside
    rw [String.toList_append, String.toList_ofList] at inside
    rcases List.mem_append.mp inside with inside | inside
    · exact base_ c inside
    · exact h c ((List.dropWhile_suffix _).mem (List.mem_of_mem_tail inside))
  · exact h

/-- What a clean reference stands for can be a reference. -/
theorem Reference.meaning_clean (known : table.Clean) (s : Reference) (h : s.lexeme.Clean) :
    IsReference (s.meaning table) := by
  cases s with
  | uri text => exact h
  | prefixed text =>
    rw [Reference.meaning_prefixed]
    exact expand_clean known h

/-- What a clean verb stands for can be a reference. -/
theorem Verb.meaning_clean (known : table.Clean) (v : Verb) (h : v.lexeme.Clean) :
    IsReference (v.meaning table) := by
  cases v with
  | type =>
    show IsReference typePredicate
    decide
  | reference s => exact s.meaning_clean known h

/-- What a clean token stands for is sound, without labels. -/
theorem Plain.meaning_sound (known : table.Clean) (p : Plain) (h : p.lexeme.Clean) (n : Nat) :
    SoundNode n 0 (p.meaning table) := by
  cases p with
  | reference s => exact ⟨s.meaning_clean known h, rfl, rfl⟩
  | quoted text => exact ⟨h, rfl, rfl⟩
  | word text => exact ⟨h, rfl, rfl⟩

mutual

/-- What an object of clean tokens stands for is sound. -/
theorem Object.sound (known : table.Clean) (o : Object) (n : Nat)
    (clean : ∀ l ∈ o.lexemes, l.Clean) :
    SoundNode n (opened o.lexemes) (o.meaning table n) := by
  match o with
  | .plain p =>
    have none_ : opened [p.lexeme] = 0 := opened_cons_of_ne p.lexeme_ne []
    rw [Object.lexemes] at clean ⊢
    rw [Object.meaning, none_]
    exact p.meaning_sound known (List.forall_mem_singleton.mp clean) n
  | .emptyNode =>
    rw [Object.meaning]
    exact ⟨⟨List.forall_mem_nil _, trivial⟩, numbered_cons.mpr ⟨rfl, rfl⟩, rfl⟩
  | .node g =>
    rw [Object.lexemes, List.forall_mem_cons, List.forall_mem_append] at clean
    -- The bracket takes a number, so what is inside counts from the next one.
    have inner := Groups.sound known g (nodeLabel n) (n + 1) clean.2.1
    have count : opened (.openBracket :: (g.lexemes ++ [.closeBracket])) = opened g.lexemes + 1 := by
      simp [opened]
    rw [Object.lexemes, Object.meaning, count]
    refine ⟨⟨inner.about, inner.writable⟩, numbered_cons.mpr ⟨rfl, inner.numbered⟩, ?_⟩
    rw [Node.labels, List.length_cons, inner.count]

/-- What objects of clean tokens stand for is sound. -/
theorem Objects.sound (known : table.Clean) (os : Objects) (subject : String) {predicate : String}
    (named : IsReference predicate) (n : Nat) (clean : ∀ l ∈ os.lexemes, l.Clean) :
    Sound subject n (opened os.lexemes) (os.triples table subject predicate n) := by
  match os with
  | .one o =>
    rw [Objects.lexemes] at clean ⊢
    rw [Objects.triples]
    exact Sound.one (Object.sound known o n clean) named
  | .more o rest =>
    rw [Objects.lexemes, List.forall_mem_append, List.forall_mem_cons] at clean
    rw [Objects.lexemes, Objects.triples, opened_append, opened_cons_of_ne (by simp)]
    have first : Sound subject n (opened o.lexemes) _ :=
      Sound.one (Object.sound known o n clean.1) named
    exact first.append (Objects.sound known rest subject named _ clean.2.2)

/-- The triples of groups with clean tokens can be printed. -/
theorem Groups.sound (known : table.Clean) (g : Groups) (subject : String) (n : Nat)
    (clean : ∀ l ∈ g.lexemes, l.Clean) :
    Sound subject n (opened g.lexemes) (g.triples table subject n) := by
  match g with
  | .last v os semicolons =>
    rw [Groups.lexemes, List.forall_mem_cons, List.forall_mem_append] at clean
    rw [Groups.lexemes, Groups.triples, opened_cons_of_ne v.lexeme_ne.2.2.2.2, opened_append,
      opened_replicate _ (by simp), Nat.add_zero]
    exact Objects.sound known os subject (v.meaning_clean known clean.1) n clean.2.1
  | .more v os semicolons rest =>
    rw [Groups.lexemes, List.forall_mem_cons, List.forall_mem_append, List.forall_mem_append]
      at clean
    rw [Groups.lexemes, Groups.triples, opened_cons_of_ne v.lexeme_ne.2.2.2.2, opened_append,
      opened_append, opened_replicate _ (by simp), Nat.zero_add]
    have first := Objects.sound known os subject (v.meaning_clean known clean.1) n clean.2.1
    exact first.append (Groups.sound known rest subject _ clean.2.2.2)

end

/-- The triples of statements with clean tokens can be printed, and their blank nodes are counted from
a number on. -/
theorem statementTriples_printable (known : table.Clean) (ss : List Statement) (n : Nat)
    (clean : ∀ s ∈ ss, ∀ l ∈ s.lexemes, l.Clean) :
    (∀ t ∈ statementTriples table n ss, IsReference t.subject) ∧
      AllWritable (statementTriples table n ss) ∧
      Numbered n (labelsOfAll (statementTriples table n ss)) := by
  induction ss generalizing n with
  | nil => exact ⟨List.forall_mem_nil _, trivial, rfl⟩
  | cons s rest ih =>
    obtain ⟨first, others⟩ := List.forall_mem_cons.mp clean
    rw [Statement.lexemes, List.forall_mem_cons] at first
    have subject := s.subject.meaning_clean known first.1
    have sound := Groups.sound known s.groups (s.subject.meaning table) n first.2
    have count : opened s.lexemes = opened s.groups.lexemes :=
      opened_cons_of_ne s.subject.lexeme_ne.2 _
    obtain ⟨subjects, writable, numbered⟩ := ih (n + opened s.lexemes) others
    rw [statementTriples, Statement.triples]
    refine ⟨List.forall_mem_append.mpr ⟨?_, subjects⟩,
      allWritable_append.mpr ⟨sound.writable, writable⟩, ?_⟩
    · intro t inside
      rw [sound.about t inside]
      exact subject
    · rw [labelsOfAll_append, numbered_append, sound.count, ← count]
      exact ⟨sound.numbered, numbered⟩

/-- The statements of a block of clean tokens have clean tokens. -/
theorem BlockTree.clean_statements (b : BlockTree) (clean : ∀ l ∈ b.lexemes, l.Clean) :
    ∀ s ∈ b.statements, ∀ l ∈ s.lexemes, l.Clean := by
  intro s inside l known
  exact clean l (b.statements_subset (List.mem_flatMap.mpr ⟨s, inside, known⟩))

/-- What is read from a block can be printed. -/
theorem printable_of_parse {block : String} {number : Int} {ts : List Triple}
    (h : parse block number = .ok ts) : Printable ts := by
  obtain ⟨table, b, known, clean, rfl⟩ := exists_tree_of_parse h
  obtain ⟨subjects, writable, numbered⟩ :=
    statementTriples_printable known b.statements 0 (b.clean_statements clean)
  exact ⟨subjects, writable, numbered⟩

/-- Triples that can be printed without loss are read again from what is printed, and what is read from
a block can be printed without loss. Hence what is read from a block is read again from its print. -/
theorem parse_print :
    (∀ ts, Printable ts → ∀ number, parse (print ts) number = .ok ts) ∧
      ∀ block number ts, parse block number = .ok ts →
        Printable ts ∧ ∀ number', parse (print ts) number' = .ok ts := by
  refine ⟨fun ts h number => parse_of_printable h number, ?_⟩
  intro block number ts h
  have printable := printable_of_parse h
  exact ⟨printable, fun number' => parse_of_printable printable number'⟩

/-- A text that has to be escaped, and another blank node. -/
def innerTriples : List Triple :=
  [.mk "_:b0" "q" (.literal "> \"x\"\n"), .mk "_:b0" "r" (.blank "_:b1" [])]

/-- A triple with nodes in nodes is printed and parsed back. -/
theorem parse_print_nested :
    Printable [.mk "#a" "p" (.blank "_:b0" innerTriples)] ∧
      parse (print [.mk "#a" "p" (.blank "_:b0" innerTriples)]) 1 =
        .ok [.mk "#a" "p" (.blank "_:b0" innerTriples)] := by
  have about : ∀ t ∈ innerTriples, t.subject = "_:b0" := by
    simp [innerTriples, Triple.subject]
  have writable : AllWritable innerTriples :=
    ⟨⟨by decide, (by decide : IsQuotable "> \"x\"\n")⟩,
      ⟨by decide, List.forall_mem_nil _, trivial⟩, trivial⟩
  have printable : Printable [.mk "#a" "p" (.blank "_:b0" innerTriples)] := by
    refine ⟨?_, ⟨⟨by decide, about, writable⟩, trivial⟩, by decide⟩
    exact List.forall_mem_singleton.mpr (by decide : IsReference "#a")
  exact ⟨printable, parse_print.1 _ printable 1⟩

end DocGraph.Block
