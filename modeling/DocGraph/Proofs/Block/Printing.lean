import DocGraph.Proofs.Block.Layout
import DocGraph.Proofs.Block.Reading

/-!
# Printing triples

Triples are printed one to a line, token by token: references in full, texts in quotes with what has to
be escaped there, and the groups of a blank node between brackets. `Printable` says which triples can be
printed without loss. References must keep clear of what ends them, texts of the line breaks that cannot
be escaped, and blank nodes must be numbered as a reading would number them.

`adds_node` and its companions follow the tokens of a printed node through the reading, by induction on
the node. With the layout that printing gives them, `parse_of_printable` puts the two together.
-/

set_option autoImplicit false

namespace DocGraph

open Block (Lexeme)

/-! ## What can be printed -/

/-- A reference that stays whole between angle brackets on a line. -/
def IsReference (text : String) : Prop :=
  ∀ c ∈ text.toList, c ≠ '>' ∧ Text.isLineBreak c = false

instance (text : String) : Decidable (IsReference text) :=
  List.decidableBAll _ text.toList

/-- A character that can be written in quotes on a line: no line break but those that can be
escaped. -/
def Quotable (c : Char) : Prop :=
  Text.isLineBreak c = true → c = '\n' ∨ c = '\r'

instance (c : Char) : Decidable (Quotable c) :=
  inferInstanceAs (Decidable (Text.isLineBreak c = true → c = '\n' ∨ c = '\r'))

/-- A text that can be written between quotes. -/
def IsQuotable (text : String) : Prop :=
  ∀ c ∈ text.toList, Quotable c

instance (text : String) : Decidable (IsQuotable text) :=
  List.decidableBAll _ text.toList

mutual

/-- The predicate and the object of a triple can be written. -/
def Triple.Writable : Triple → Prop
  | .mk _ predicate object => IsReference predicate ∧ object.Writable

/-- A node can be written. The triples of a blank node are about the node. -/
def Node.Writable : Node → Prop
  | .literal value => IsQuotable value
  | .uri value => IsReference value
  | .blank label triples => (∀ t ∈ triples, t.subject = label) ∧ AllWritable triples

/-- Triples that can be written, all of them. -/
def AllWritable : List Triple → Prop
  | [] => True
  | t :: rest => t.Writable ∧ AllWritable rest

end

mutual

/-- The labels of the blank nodes of a triple, in the order in which they are opened. -/
def Triple.labels : Triple → List String
  | .mk _ _ object => object.labels

/-- The labels of the blank nodes of a node, itself first. -/
def Node.labels : Node → List String
  | .literal _ => []
  | .uri _ => []
  | .blank label triples => label :: labelsOfAll triples

/-- The labels of the blank nodes in some triples, in their order. -/
def labelsOfAll : List Triple → List String
  | [] => []
  | t :: rest => t.labels ++ labelsOfAll rest

end

/-! ## The tokens that are printed -/

mutual

/-- The tokens of the predicate and the object of a triple. -/
def Triple.group : Triple → List Lexeme
  | .mk _ predicate object => .uri predicate :: object.lexemes

/-- The tokens of a node. -/
def Node.lexemes : Node → List Lexeme
  | .literal value => [.quoted value]
  | .uri value => [.uri value]
  | .blank _ [] => [.openBracket, .closeBracket]
  | .blank _ (t :: rest) => .openBracket :: (t.group ++ (laterGroups rest ++ [.closeBracket]))

/-- The tokens of groups behind another one. -/
def laterGroups : List Triple → List Lexeme
  | [] => []
  | t :: rest => .semicolon :: (t.group ++ laterGroups rest)

end

/-- The tokens of a triple as a statement. -/
def Triple.lexemes (t : Triple) : List Lexeme :=
  .uri t.subject :: (t.group ++ [.stop])

namespace Block

/-! ## Printing -/

/-- A character as it is written in quotes. -/
def escape (c : Char) : List Char :=
  if c = '\\' then ['\\', '\\']
  else if c = '"' then ['\\', '"']
  else if c = '\n' then ['\\', 'n']
  else if c = '\r' then ['\\', 'r']
  else if c = '\t' then ['\\', 't']
  else [c]

/-- A token as it is written. -/
def Lexeme.written : Lexeme → List Char
  | .uri text => '<' :: (text.toList ++ ['>'])
  | .quoted text => '"' :: (text.toList.flatMap escape ++ ['"'])
  | other => other.text.toList

/-- A triple on a line, with a blank between tokens. -/
def printedLine (t : Triple) : List Char :=
  List.intercalate [' '] (t.lexemes.map Lexeme.written)

/-- Triples one to a line. -/
def print (ts : List Triple) : String :=
  String.ofList (joined (ts.map printedLine))

/-- Labels that count blank nodes from a number on. -/
def Numbered (n : Nat) (labels : List String) : Prop :=
  labels = (List.range' n labels.length).map nodeLabel

instance (n : Nat) (labels : List String) : Decidable (Numbered n labels) :=
  inferInstanceAs (Decidable (labels = (List.range' n labels.length).map nodeLabel))

/-- Triples that can be printed without loss. -/
structure Printable (ts : List Triple) : Prop where
  subjects : ∀ t ∈ ts, IsReference t.subject
  writable : AllWritable ts
  numbered : Numbered 0 (labelsOfAll ts)

/-! ## Numbering -/

/-- Labels count from a number on if the first one has it and the others count from the next one on.
-/
theorem numbered_cons {n : Nat} {label : String} {labels : List String} :
    Numbered n (label :: labels) ↔ label = nodeLabel n ∧ Numbered (n + 1) labels := by
  simp [Numbered, List.range'_succ]

/-- Labels count on if those in front do and the others count on from there. -/
theorem numbered_append {n : Nat} {a b : List String} :
    Numbered n (a ++ b) ↔ Numbered n a ∧ Numbered (n + a.length) b := by
  induction a generalizing n with
  | nil => simp [Numbered]
  | cons label a ih =>
    rw [List.cons_append, numbered_cons, numbered_cons, ih, List.length_cons, and_assoc]
    simp [Nat.add_assoc, Nat.add_comm 1]

mutual

/-- As many nodes are opened in a group as the triple has blank nodes. -/
theorem opened_group (t : Triple) : opened t.group = t.labels.length := by
  match t with
  | .mk s p o =>
    rw [Triple.group, Triple.labels, opened_cons_of_ne (by simp)]
    exact opened_lexemes o

/-- As many nodes are opened in an object as it has blank nodes. -/
theorem opened_lexemes (o : Node) : opened o.lexemes = o.labels.length := by
  match o with
  | .literal value => rfl
  | .uri value => rfl
  | .blank label [] => rfl
  | .blank label (t :: rest) =>
    have first := opened_group t
    have others := opened_laterGroups rest
    simp only [Node.lexemes, Node.labels, labelsOfAll, opened, List.count_cons, List.count_append,
      List.length_cons, List.length_append] at first others ⊢
    simp [first, others]

/-- As many nodes are opened in groups as the triples have blank nodes. -/
theorem opened_laterGroups (ts : List Triple) :
    opened (laterGroups ts) = (labelsOfAll ts).length := by
  match ts with
  | [] => rfl
  | t :: rest =>
    rw [laterGroups, labelsOfAll, opened_cons_of_ne (by simp), opened_append, opened_group t,
      opened_laterGroups rest, List.length_append]

end

/-! ## Reading what is printed -/

variable {table : PrefixTable}

open Reader in
variable (table) in
mutual

/-- Reading what a triple is written with adds the triple. -/
theorem adds_group (t : Triple) (r : Reader) (h : r.awaiting.Verb)
    (about : t.subject = r.current.subject) (writable : t.Writable)
    (numbered : Numbered r.nodes t.labels) :
    ∃ predicate, Adds table r t.group [t] (.more predicate) := by
  match t with
  | .mk s p o =>
    refine ⟨p, ?_⟩
    rw [Triple.group]
    refine Adds.cons (by simp) (fun line => step_verb (.reference (.uri p)) line h) ?_
    rw [Triple.Writable] at writable
    rw [Triple.labels] at numbered
    have read := adds_printed o (r.advance [] (.object p) 0) rfl writable.2 numbered
    rw [advance_subject, ← about] at read
    exact read
termination_by (sizeOf t, 0)

/-- The tokens of a printed node add a triple with the node. -/
theorem adds_printed (o : Node) (r : Reader) {predicate : String}
    (h : r.awaiting = .object predicate) (writable : o.Writable)
    (numbered : Numbered r.nodes o.labels) :
    Adds table r o.lexemes [.mk r.current.subject predicate o] (.more predicate) := by
  match o with
  | .literal value => exact adds_one (by simp) fun line => step_plain (.quoted value) line h
  | .uri value => exact adds_one (by simp) fun line => step_plain (.reference (.uri value)) line h
  | .blank label [] =>
    rw [Node.labels] at numbered
    obtain ⟨rfl, -⟩ := numbered_cons.mp numbered
    show Adds table r (.openBracket :: ([] ++ [.closeBracket])) _ _
    exact adds_node h fun line => ⟨.node, Or.inr rfl, adds_nothing⟩
  | .blank label (t :: rest) =>
    -- The label is the one that the reader gives to the next node, and the inner ones count on.
    rw [Node.labels] at numbered
    obtain ⟨rfl, inner⟩ := numbered_cons.mp numbered
    rw [Node.Writable] at writable
    rw [Node.lexemes, ← List.append_assoc]
    refine adds_node h fun line => ?_
    obtain ⟨w, ending, read⟩ := adds_groups t rest (r.openNode predicate line)
      (Or.inr (Or.inr rfl)) writable.1 writable.2 inner
    exact ⟨w, Or.inl ending, read⟩
termination_by (sizeOf o, 0)

/-- Reading what triples are written with adds the triples. -/
theorem adds_groups (t : Triple) (rest : List Triple) (r : Reader) (h : r.awaiting.Verb)
    (about : ∀ u ∈ t :: rest, u.subject = r.current.subject) (writable : AllWritable (t :: rest))
    (numbered : Numbered r.nodes (labelsOfAll (t :: rest))) :
    ∃ w : Awaiting, w.End ∧ Adds table r (t.group ++ laterGroups rest) (t :: rest) w := by
  obtain ⟨aboutFirst, aboutRest⟩ := List.forall_mem_cons.mp about
  rw [AllWritable] at writable
  rw [labelsOfAll] at numbered
  obtain ⟨first, later⟩ := numbered_append.mp numbered
  obtain ⟨p, read⟩ := adds_group t r h aboutFirst writable.1 first
  have behind : Numbered (r.nodes + opened t.group) (labelsOfAll rest) := by
    rw [opened_group]
    exact later
  obtain ⟨w, ending, others⟩ := adds_laterGroups rest (r.advance [t] (.more p) (opened t.group))
    (Or.inl ⟨p, rfl⟩) aboutRest writable.2 behind
  exact ⟨w, ending, read.append others⟩
termination_by (sizeOf (t :: rest), 0)

/-- Reading what more triples are written with adds them as well. -/
theorem adds_laterGroups (ts : List Triple) (r : Reader) (h : r.awaiting.End)
    (about : ∀ t ∈ ts, t.subject = r.current.subject) (writable : AllWritable ts)
    (numbered : Numbered r.nodes (labelsOfAll ts)) :
    ∃ w : Awaiting, w.End ∧ Adds table r (laterGroups ts) ts w := by
  match ts with
  | [] => exact ⟨r.awaiting, h, adds_nothing⟩
  | t :: rest =>
    obtain ⟨w, ending, read⟩ := adds_groups t rest (r.advance [] .group 0) (Or.inr (Or.inl rfl))
      about writable numbered
    refine ⟨w, ending, ?_⟩
    rw [laterGroups]
    exact Adds.cons (by simp) (fun line => step_semicolon line h) read
termination_by (sizeOf ts, 1)

end

variable (table) in
/-- The tokens of a printed triple add the triple. -/
theorem takes_printed (t : Triple) (r : Reader) (h : r.awaiting = .statement)
    (outermost : r.enclosing = []) (writable : t.Writable) (numbered : Numbered r.nodes t.labels) :
    ∃ r', Reader.Takes table r t.lexemes r' ∧ r'.awaiting = .statement ∧ r'.enclosing = [] ∧
      r'.current.triples = t :: r.current.triples ∧ r'.nodes = r.nodes + t.labels.length := by
  have subject := @Reader.takes_one table r _ _ fun line =>
    Reader.step_subject (.uri t.subject) line h
  let r₁ : Reader := { r with current := ⟨t.subject, r.current.triples⟩, awaiting := .predicate }
  obtain ⟨p, read⟩ := adds_group table t r₁ (Or.inl rfl) rfl writable numbered
  let r₂ := r₁.advance [t] (.more p) (opened t.group)
  have stop := @Reader.takes_one table r₂ _ _ fun line =>
    Reader.step_stop line (Or.inl ⟨p, rfl⟩) outermost
  have whole : Reader.Takes table r₁ (t.group ++ [.stop]) (r₂.advance [] .statement 0) :=
    Reader.Takes.append read stop
  refine ⟨r₂.advance [] .statement 0, subject.append whole, rfl, outermost, rfl, ?_⟩
  rw [← opened_group]
  rfl

variable (table) in
/-- Reading what triples are printed as adds the triples, statement by statement. -/
theorem takes_all_printed (ts : List Triple) (r : Reader) (h : r.awaiting = .statement)
    (outermost : r.enclosing = []) (writable : AllWritable ts)
    (numbered : Numbered r.nodes (labelsOfAll ts)) :
    ∃ r', Reader.Takes table r (ts.flatMap Triple.lexemes) r' ∧ r'.awaiting = .statement ∧
      r'.current.triples = ts.reverse ++ r.current.triples := by
  induction ts generalizing r with
  | nil => exact ⟨r, Reader.adds_nothing, h, rfl⟩
  | cons t rest ih =>
    rw [AllWritable] at writable
    rw [labelsOfAll] at numbered
    obtain ⟨first, later⟩ := numbered_append.mp numbered
    obtain ⟨r₁, read, before, outermost₁, triples, nodes⟩ :=
      takes_printed table t r h outermost writable.1 first
    rw [← nodes] at later
    obtain ⟨r₂, others, before₂, all⟩ := ih r₁ before outermost₁ writable.2 later
    refine ⟨r₂, read.append others, before₂, ?_⟩
    rw [all, triples]
    simp

/-- The tokens of printed triples are read as the triples. -/
theorem statements_printed {ts : List Triple} (h : Printable ts) {tokens : List Token}
    (same : tokens.map Token.lexeme = ts.flatMap Triple.lexemes) :
    statements table tokens = .ok ts := by
  obtain ⟨final, read, before, triples⟩ :=
    takes_all_printed table ts .start rfl rfl h.writable h.numbered
  rw [statements, read tokens same]
  show final.finish _ = _
  rw [Reader.finish, before, triples]
  simp [Reader.start]

/-! ## How printed tokens are written -/

/-- What is escaped is read back as what it was. -/
theorem quotedBody_escape (c : Char) {body value : List Char} (h : QuotedBody body value) :
    QuotedBody (escape c ++ body) (c :: value) := by
  unfold escape
  split
  · subst c
    exact .escaped '\\' h
  split
  · subst c
    exact .escaped '"' h
  split
  · subst c
    exact .escaped 'n' h
  split
  · subst c
    exact .escaped 'r' h
  split
  · subst c
    exact .escaped 't' h
  · rename_i noEscape noQuote _ _ _
    exact .plain noQuote noEscape h

/-- A text that is escaped is read back as what it was. -/
theorem quotedBody_flatMap_escape (value : List Char) :
    QuotedBody (value.flatMap escape) value := by
  induction value with
  | nil => exact .nil
  | cons c value ih => exact quotedBody_escape c ih

/-- A text that is written in quotes is read back, whatever is attached to it, and what stands behind
that is left whole and is read next. So a language or a datatype neither changes the text nor takes
with it the sign or the full stop behind it. -/
theorem readQuoted_attached (value : List Char) {attached rest : List Char} (h : Attached attached)
    (delimited : Delimited rest) :
    readQuoted (value.flatMap escape ++ '"' :: (attached ++ rest)) = some (value, rest) ∧
      ∀ found, lexemesFrom found ('"' :: (value.flatMap escape ++ '"' :: (attached ++ rest))) =
        lexemesFrom (.quoted (String.ofList value) :: found) rest := by
  have body := readQuotedFrom_body (quotedBody_flatMap_escape value) [] (attached ++ rest)
  have read : readQuoted (value.flatMap escape ++ '"' :: (attached ++ rest)) = some (value, rest) := by
    rw [readQuoted, body]
    simp [h.afterSuffix_append delimited]
  refine ⟨read, fun found => ?_⟩
  have taken : scan '"' (value.flatMap escape ++ '"' :: (attached ++ rest)) =
      .ok ([.quoted (String.ofList value)], rest) := by
    rw [scan, read]
    rfl
  exact lexemesFrom_cons taken (by decide)

/-- A text with a quote and a backslash, whose datatype has a full stop in its name, at the end of a
statement. -/
theorem readQuoted_attached_datatype :
    Attached "^^xsd:v1.0".toList ∧ Delimited ".".toList ∧
      readQuoted "say \\\"hi\\\" \\\\ bye\"^^xsd:v1.0.".toList =
        some ("say \"hi\" \\ bye".toList, ".".toList) := by
  have attached : Attached ('^' :: '^' :: "xsd:v1.0".toList) := .datatype (by simp [endsWord]) (by decide)
  have delimited : Delimited ".".toList := .stop (by decide)
  exact ⟨attached, delimited, (readQuoted_attached "say \"hi\" \\ bye".toList attached delimited).1⟩

/-- There are no line breaks in what is escaped. -/
theorem unbroken_escape {c : Char} (h : Quotable c) : Text.Unbroken (escape c) := by
  unfold escape
  repeat
    split
    · decide
  rename_i noLineFeed noReturn _
  intro d known
  cases List.mem_singleton.mp known
  cases broken : Text.isLineBreak c with
  | false => rfl
  | true =>
    rcases h broken with same | same
    · exact absurd same noLineFeed
    · exact absurd same noReturn

/-- A reference is written between brackets. -/
theorem spelled_uri {text : String} (h : IsReference text) :
    Spelled (Lexeme.uri text).written (.uri text) := by
  have closed : '>' ∉ text.toList := fun known => (h '>' known).1 rfl
  have spelled := Spelled.uri closed fun c known => (h c known).2
  rwa [String.ofList_toList] at spelled

/-- A text is written between quotes. -/
theorem spelled_quoted {text : String} (h : IsQuotable text) :
    Spelled (Lexeme.quoted text).written (.quoted text) := by
  have unbroken : Text.Unbroken (text.toList.flatMap escape ++ []) := by
    rw [List.append_nil]
    intro c known
    obtain ⟨d, inside, escaped⟩ := List.mem_flatMap.mp known
    exact unbroken_escape (h d inside) c escaped
  have spelled := Spelled.quoted (quotedBody_flatMap_escape text.toList) .none unbroken
  rwa [String.ofList_toList] at spelled

mutual

/-- Every token of a group that can be written is spelled. -/
theorem spelled_group (t : Triple) (h : t.Writable) : ∀ l ∈ t.group, Spelled l.written l := by
  match t with
  | .mk s p o =>
    rw [Triple.Writable] at h
    rw [Triple.group]
    exact List.forall_mem_cons.mpr ⟨spelled_uri h.1, spelled_lexemes o h.2⟩

/-- Every token of an object that can be written is spelled. -/
theorem spelled_lexemes (o : Node) (h : o.Writable) : ∀ l ∈ o.lexemes, Spelled l.written l := by
  match o with
  | .literal value => exact List.forall_mem_singleton.mpr (spelled_quoted h)
  | .uri value => exact List.forall_mem_singleton.mpr (spelled_uri h)
  | .blank label [] =>
    exact List.forall_mem_cons.mpr ⟨.openBracket, List.forall_mem_singleton.mpr .closeBracket⟩
  | .blank label (t :: rest) =>
    rw [Node.Writable, AllWritable] at h
    rw [Node.lexemes]
    have close : ∀ l ∈ [Lexeme.closeBracket], Spelled l.written l :=
      List.forall_mem_singleton.mpr .closeBracket
    have later := List.forall_mem_append.mpr ⟨spelled_laterGroups rest h.2.2, close⟩
    have groups := List.forall_mem_append.mpr ⟨spelled_group t h.2.1, later⟩
    exact List.forall_mem_cons.mpr ⟨.openBracket, groups⟩

/-- Every token of groups that can be written is spelled. -/
theorem spelled_laterGroups (ts : List Triple) (h : AllWritable ts) :
    ∀ l ∈ laterGroups ts, Spelled l.written l := by
  match ts with
  | [] =>
    rw [laterGroups]
    exact List.forall_mem_nil _
  | t :: rest =>
    rw [AllWritable] at h
    rw [laterGroups]
    exact List.forall_mem_cons.mpr ⟨.semicolon,
      List.forall_mem_append.mpr ⟨spelled_group t h.1, spelled_laterGroups rest h.2⟩⟩

end

/-! ## How printed triples are laid out -/

/-- Tokens that can be spelled have spellings. -/
theorem exists_spellings {ls : List Lexeme} (h : ∀ l ∈ ls, Spelled l.written l) :
    ∃ ts : List Spelling, ts.map Spelling.text = ls.map Lexeme.written ∧
      ts.map Spelling.lexeme = ls := by
  induction ls with
  | nil => exact ⟨[], rfl, rfl⟩
  | cons l ls ih =>
    obtain ⟨first, others⟩ := List.forall_mem_cons.mp h
    obtain ⟨ts, texts, lexemes⟩ := ih others
    exact ⟨⟨l.written, l, first⟩ :: ts, by simp [texts], by simp [lexemes]⟩

/-- A line may start with one more space. -/
theorem Spread.indent {ts : List Spelling} {s : List Char} (h : Spread ts s) :
    Spread ts (' ' :: s) := by
  cases h with
  | gap blank => exact .gap (List.forall_mem_cons.mpr ⟨by decide, blank⟩)
  | token gap t blank others apart =>
    exact .token (' ' :: gap) t (List.forall_mem_cons.mpr ⟨by decide, blank⟩) others apart

/-- Tokens may stand on a line with one space between any two of them. -/
theorem spread_intercalate (ts : List Spelling) :
    Spread ts (List.intercalate [' '] (ts.map Spelling.text)) := by
  induction ts with
  | nil => exact .gap (by decide)
  | cons t ts ih =>
    cases ts with
    | nil =>
      have nothing : Spread [] [] := .gap (by decide)
      simpa using Spread.token [] t (by decide) nothing (by decide)
    | cons u ts =>
      rw [List.map_cons, List.map_cons, List.intercalate_cons_cons, List.append_assoc]
      exact .token [] t (by decide) ih.indent (by simp [Apart, separates])

/-- The line of a triple spreads its tokens. -/
theorem spread_printedLine {t : Triple} (subject : IsReference t.subject) (h : t.Writable) :
    ∃ ts : List Spelling, ts.map Spelling.lexeme = t.lexemes ∧ Spread ts (printedLine t) := by
  have spelled : ∀ l ∈ t.lexemes, Spelled l.written l := by
    have stop : ∀ l ∈ [Lexeme.stop], Spelled l.written l := List.forall_mem_singleton.mpr .stop
    have group := List.forall_mem_append.mpr ⟨spelled_group t h, stop⟩
    exact List.forall_mem_cons.mpr ⟨spelled_uri subject, group⟩
  obtain ⟨ts, texts, lexemes⟩ := exists_spellings spelled
  refine ⟨ts, lexemes, ?_⟩
  rw [printedLine, ← texts]
  exact spread_intercalate ts

/-- The lines of triples lay out their tokens, without declarations. -/
theorem lays_printedLines {ts : List Triple} (subjects : ∀ t ∈ ts, IsReference t.subject)
    (h : AllWritable ts) : ∃ tokens : List Spelling,
      tokens.map Spelling.lexeme = ts.flatMap Triple.lexemes ∧
        Lays tokens [] (ts.map printedLine) := by
  induction ts with
  | nil => exact ⟨[], rfl, .nil⟩
  | cons t ts ih =>
    rw [AllWritable] at h
    obtain ⟨subject, others⟩ := List.forall_mem_cons.mp subjects
    obtain ⟨first, lexemes, spread⟩ := spread_printedLine subject h.1
    obtain ⟨tokens, later, lays⟩ := ih others h.2
    refine ⟨first ++ tokens, ?_, .tokens spread lays⟩
    rw [List.map_append, List.flatMap_cons, lexemes, later]

/-- Reading what is printed gives the triples back. -/
theorem parse_of_printable {ts : List Triple} (h : Printable ts) (number : Int) :
    parse (print ts) number = .ok ts := by
  obtain ⟨tokens, lexemes, lays⟩ := lays_printedLines h.subjects h.writable
  obtain ⟨found, same, read⟩ := parse_of_lays lays number
  rw [print, read, statements_printed h (same.trans lexemes)]
  rfl

end Block

end DocGraph
