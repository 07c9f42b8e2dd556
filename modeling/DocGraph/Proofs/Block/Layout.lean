import DocGraph.Proofs.Block.Spelling
import DocGraph.Proofs.Fallible
import DocGraph.Proofs.Text.Lines
import Mathlib.Data.List.Basic
import Mathlib.Data.List.Forall2

/-!
# Layout

A block may be laid out in many ways: where the lines are broken between tokens, how wide the gaps
are, and where blank lines, comments and the declarations of prefixes stand. `Lays` says which lines
lay out given tokens and declarations. `addLines_of_lays` says what is taken in from such lines: the
declarations in their order, and the tokens, each with the number of its line.

What is read from tokens depends on these numbers only where an error names one, which `Alike` readers
show step by step. Hence `parse_layout`: blocks with the same tokens and the same declarations have the
same triples or the same fault.
-/

set_option autoImplicit false

namespace DocGraph.Block

open Text (Unbroken)

/-! ## The lines of a block -/

/-- Lines put together to the text of a block. -/
def joined (lines : List (List Char)) : List Char :=
  List.intercalate ['\n'] lines

/-- Lines that lay out tokens and declarations of prefixes, each in the order in which they stand.
Blank lines and comments may stand anywhere. -/
inductive Lays : List Spelling → List (String × String) → List (List Char) → Prop
  | nil : Lays [] [] []
  | blank {line : List Char} {tokens : List Spelling} {bindings : List (String × String)}
      {rest : List (List Char)} (blank : ∀ c ∈ line, Text.isBlank c = true)
      (unbroken : Unbroken line) (others : Lays tokens bindings rest) :
      Lays tokens bindings (line :: rest)
  | comment (indent text : List Char) {tokens : List Spelling} {bindings : List (String × String)}
      {rest : List (List Char)} (blank : ∀ c ∈ indent, Text.isBlank c = true)
      (unbroken : Unbroken (indent ++ '#' :: text)) (others : Lays tokens bindings rest) :
      Lays tokens bindings ((indent ++ '#' :: text) :: rest)
  | declaration {line : List Char} {binding : String × String} {tokens : List Spelling}
      {bindings : List (String × String)} {rest : List (List Char)}
      (declares : declaration? (Text.trim line) = some binding) (unbroken : Unbroken line)
      (others : Lays tokens bindings rest) : Lays tokens (binding :: bindings) (line :: rest)
  | tokens {line : List Char} {first tokens : List Spelling} {bindings : List (String × String)}
      {rest : List (List Char)} (spread : Spread first line) (others : Lays tokens bindings rest) :
      Lays (first ++ tokens) bindings (line :: rest)

/-- There are no line breaks in the lines of a layout. -/
theorem Lays.unbroken {tokens : List Spelling} {bindings : List (String × String)}
    {lines : List (List Char)} (h : Lays tokens bindings lines) : ∀ line ∈ lines, Unbroken line := by
  induction h with
  | nil => simp
  | blank _ unbroken _ ih => exact List.forall_mem_cons.mpr ⟨unbroken, ih⟩
  | comment _ _ _ unbroken _ ih => exact List.forall_mem_cons.mpr ⟨unbroken, ih⟩
  | declaration _ unbroken _ ih => exact List.forall_mem_cons.mpr ⟨unbroken, ih⟩
  | tokens spread _ ih => exact List.forall_mem_cons.mpr ⟨spread.unbroken, ih⟩

/-! ## What is taken in -/

/-- An empty line changes nothing. -/
theorem addLine_nil (acc : Lexed) (number : Int) : acc.addLine number [] = .ok acc :=
  rfl

/-- A comment changes nothing. -/
theorem addLine_comment {indent : List Char} (blank : ∀ c ∈ indent, Text.isBlank c = true)
    (acc : Lexed) (number : Int) (text : List Char) :
    acc.addLine number (Text.trim (indent ++ '#' :: text)) = .ok acc := by
  have trimmed : Text.trim (indent ++ '#' :: text) = '#' :: Text.trimBack text := by
    rw [Text.trim, Text.trimFront_append blank, Text.trimFront_of_not_isBlank (by decide)]
    exact Text.trimBack_append [] (by decide) text
  rw [trimmed]
  rfl

/-- A declaration goes in front of those that were made before. -/
theorem addLine_declaration {line : List Char} {binding : String × String}
    (h : declaration? line = some binding) (acc : Lexed) (number : Int) :
    acc.addLine number line = .ok { acc with prefixes := binding :: acc.prefixes } := by
  have read := h
  unfold declaration? at read
  obtain ⟨rest, begins, -⟩ := Option.bind_eq_some_iff.mp read
  have whole := List.append_eq_of_isPrefixOf?_eq_some begins
  have declares : prefixWord.toList.isPrefixOf line = true := by
    rw [List.isPrefixOf_iff_prefix, ← whole]
    exact List.prefix_append _ _
  have uncommented : (line.isEmpty || line.head? = some '#') = false := by
    rw [← whole]
    simp [prefixWord]
  exact (LineTaken.declaration uncommented declares h).addLine_eq

/-- From the lines of a layout its declarations and its tokens are taken in. -/
theorem addLines_of_lays {tokens : List Spelling} {bindings : List (String × String)}
    {lines : List (List Char)} (h : Lays tokens bindings lines) (acc : Lexed) (number : Int) :
    ∃ found : List Token, found.map Token.lexeme = tokens.map Spelling.lexeme ∧
      acc.addLines number lines =
        .ok ⟨bindings.reverse ++ acc.prefixes, found.reverse ++ acc.tokens⟩ := by
  induction h generalizing acc number with
  | nil => exact ⟨[], rfl, rfl⟩
  | blank blank _ _ ih =>
    rw [Lexed.addLines, Text.trim_of_blank blank, addLine_nil]
    exact ih acc (number + 1)
  | comment _ _ blank _ _ ih =>
    rw [Lexed.addLines, addLine_comment blank]
    exact ih acc (number + 1)
  | declaration declares _ _ ih =>
    rw [Lexed.addLines, addLine_declaration declares]
    obtain ⟨found, same, taken⟩ := ih _ (number + 1)
    refine ⟨found, same, taken.trans ?_⟩
    simp
  | @tokens line first _ _ _ spread _ ih =>
    rw [Lexed.addLines, addLine_of_spread spread]
    obtain ⟨found, same, taken⟩ := ih _ (number + 1)
    refine ⟨onLine number first ++ found, ?_, taken.trans ?_⟩
    · rw [List.map_append, List.map_append, onLine_lexemes, same]
    · simp

/-- An empty last line is none. -/
theorem addLines_joined {lines : List (List Char)} (h : ∀ line ∈ lines, Unbroken line)
    (acc : Lexed) (number : Int) :
    acc.addLines number (Text.lines (joined lines)) = acc.addLines number lines := by
  induction lines generalizing acc number with
  | nil => rfl
  | cons line rest ih =>
    obtain ⟨whole, others⟩ := List.forall_mem_cons.mp h
    cases rest with
    | nil =>
      -- Cutting the text drops a last line that is empty, and nothing is taken in from one.
      rw [joined, List.intercalate_singleton, Text.lines_unbroken whole]
      cases line with
      | nil => rfl
      | cons c line => rfl
    | cons next rest =>
      have split_ : joined (line :: next :: rest) = line ++ '\n' :: joined (next :: rest) := by
        simp [joined, List.intercalate_cons_cons]
      rw [split_, Text.lines_append_break whole (by decide) (by decide), Lexed.addLines, Lexed.addLines]
      cases acc.addLine number (Text.trim line) with
      | error e => rfl
      | ok acc' => exact ih others acc' (number + 1)

/-! ## Lines of tokens that are read -/

/-- Both give a value, and these are related, or both give an error, with the same fault. -/
def Agree {α : Type} (R : α → α → Prop) : Except GrammarError α → Except GrammarError α → Prop :=
  InStep (fun e e' => e.fault = e'.fault) R

/-- Open nodes that differ only in the lines of their brackets. -/
def OpenNode.Alike (n n' : OpenNode) : Prop :=
  n.around = n'.around ∧ n.predicate = n'.predicate

namespace Reader

/-- Readers that differ only in the lines of the brackets that are open. -/
structure Alike (r r' : Reader) : Prop where
  current : r.current = r'.current
  enclosing : List.Forall₂ OpenNode.Alike r.enclosing r'.enclosing
  awaiting : r.awaiting = r'.awaiting
  nodes : r.nodes = r'.nodes

/-! ### Readers whose open nodes are related -/

section Related

variable {node : OpenNode → OpenNode → Prop} {r r' : Reader}

/-- Both readers are in as many nodes: in none, or in one that is around the others. -/
theorem enclosing_cases (h : List.Forall₂ node r.enclosing r'.enclosing) :
    (r.enclosing = [] ∧ r'.enclosing = []) ∨ ∃ n outer n' outer', r.enclosing = n :: outer ∧
      r'.enclosing = n' :: outer' ∧ node n n' ∧ List.Forall₂ node outer outer' := by
  generalize r.enclosing = inner at h ⊢
  generalize r'.enclosing = inner' at h ⊢
  cases h with
  | nil => exact Or.inl ⟨rfl, rfl⟩
  | cons top below => exact Or.inr ⟨_, _, _, _, rfl, rfl, top, below⟩

/-- The same tokens end the lists that they read. -/
theorem closes_eq (h : List.Forall₂ node r.enclosing r'.enclosing) (l : Lexeme) :
    r.closes l = r'.closes l := by
  unfold closes
  rcases enclosing_cases h with ⟨empty, empty'⟩ | ⟨n, outer, n', outer', inside, inside', -, -⟩
  · rw [empty, empty']
  · rw [inside, inside']
    rfl

/-- What keeps step token by token keeps step over all tokens. -/
theorem run_inStep {table table' : PrefixTable} {E : GrammarError → GrammarError → Prop}
    {R : Reader → Reader → Prop} {T : Token → Token → Prop}
    (each : ∀ {r r' t t'}, R r r' → T t t' → InStep E R (r.step table t) (r'.step table' t'))
    (h : R r r') {tokens tokens' : List Token} (related : List.Forall₂ T tokens tokens') :
    InStep E R (r.run table tokens) (r'.run table' tokens') := by
  induction related generalizing r r' with
  | nil => exact h
  | cons first _ ih =>
    rw [run_cons, run_cons]
    exact (each h first).bind fun a a' next => ih next

end Related

variable {table : PrefixTable} {r r' : Reader} {t t' : Token}

/-- Taking a subject keeps readers alike. -/
theorem readSubject_agree (h : Alike r r') (l : Lexeme) :
    Agree Alike (blame t (r.readSubject table l)) (blame t' (r'.readSubject table l)) := by
  unfold readSubject
  cases subjectOf table l with
  | error fault => rfl
  | ok subject => exact ⟨by simp [h.current], h.enclosing, rfl, h.nodes⟩

/-- Taking a predicate keeps readers alike. -/
theorem readPredicate_agree (h : Alike r r') (l : Lexeme) :
    Agree Alike (blame t (r.readPredicate table l)) (blame t' (r'.readPredicate table l)) := by
  unfold readPredicate
  cases predicateOf table l with
  | error fault => rfl
  | ok predicate => exact ⟨h.current, h.enclosing, rfl, h.nodes⟩

/-- Opening a node keeps readers alike. -/
theorem openNode_alike (h : Alike r r') (predicate : String) (line line' : Int) :
    Alike (r.openNode predicate line) (r'.openNode predicate line') := by
  refine ⟨?_, .cons ⟨h.current, rfl⟩ h.enclosing, rfl, ?_⟩
  · simp [openNode, h.nodes]
  · simp [openNode, h.nodes]

/-- Taking an object keeps readers alike. -/
theorem readObject_agree (h : Alike r r') (predicate : String) (same : t.lexeme = t'.lexeme) :
    Agree Alike (blame t (r.readObject table predicate t))
      (blame t' (r'.readObject table predicate t')) := by
  unfold readObject
  rw [same]
  split
  · exact openNode_alike h predicate t.line t'.line
  · cases objectOf table t'.lexeme with
    | error fault => rfl
    | ok object => exact ⟨by simp [h.current], h.enclosing, rfl, h.nodes⟩

/-- Closing a node keeps readers alike. -/
theorem closeNode_alike (h : Alike r r') {n n' : OpenNode} {outer outer' : List OpenNode}
    (top : n.Alike n') (below : List.Forall₂ OpenNode.Alike outer outer') :
    Alike (r.closeNode n outer) (r'.closeNode n' outer') := by
  obtain ⟨around, predicate⟩ := top
  exact ⟨by simp [closeNode, around, predicate, h.current], below,
    by simp [closeNode, predicate], h.nodes⟩

/-- Ending a list keeps readers alike. -/
theorem endList_agree (h : Alike r r') (same : t.lexeme = t'.lexeme) :
    Agree Alike (r.endList t) (r'.endList t') := by
  unfold endList
  rw [same]
  rcases enclosing_cases h.enclosing with ⟨empty, empty'⟩ |
    ⟨n, outer, n', outer', inside, inside', top, below⟩
  · rw [empty, empty']
    cases sign : t'.lexeme with
    | stop => exact ⟨h.current, .nil, rfl, h.nodes⟩
    | _ => rfl
  · rw [inside, inside']
    cases sign : t'.lexeme with
    | closeBracket => exact closeNode_alike h top below
    | _ => rfl

/-- Taking a token keeps readers alike. -/
theorem step_agree (h : Alike r r') (same : t.lexeme = t'.lexeme) :
    Agree Alike (r.step table t) (r'.step table t') := by
  unfold step
  rw [h.awaiting]
  cases r'.awaiting with
  | statement =>
    simp only [same]
    split
    · exact h
    · exact readSubject_agree h _
  | predicate =>
    rw [same]
    exact readPredicate_agree h _
  | object predicate => exact readObject_agree h predicate same
  | more predicate =>
    rw [same]
    cases sign : t'.lexeme with
    | comma => exact ⟨h.current, h.enclosing, rfl, h.nodes⟩
    | semicolon => exact ⟨h.current, h.enclosing, rfl, h.nodes⟩
    | _ => exact endList_agree h same
  | group =>
    simp only [same, closes_eq h.enclosing]
    split
    · exact h
    · split
      · exact endList_agree h same
      · exact readPredicate_agree h _
  | node =>
    simp only [same]
    split
    · exact endList_agree h same
    · exact readPredicate_agree h _

/-- Taking the same tokens, on whatever lines, keeps readers alike. -/
theorem run_agree (h : Alike r r') {tokens tokens' : List Token}
    (same : tokens.map Token.lexeme = tokens'.map Token.lexeme) :
    Agree Alike (r.run table tokens) (r'.run table tokens') := by
  rw [← List.forall₂_eq_eq_eq, List.forall₂_map_left_iff, List.forall₂_map_right_iff] at same
  exact run_inStep step_agree h same

/-- Readers that are alike have read the same triples. -/
theorem finish_agree (h : Alike r r') (line line' : Option Int) :
    Agree Eq (r.finish line) (r'.finish line') := by
  unfold finish
  rw [h.awaiting, h.current]
  rcases enclosing_cases h.enclosing with ⟨empty, empty'⟩ |
    ⟨n, outer, n', outer', inside, inside', -, -⟩
  · rw [empty, empty']
    cases r'.awaiting <;> rfl
  · rw [inside, inside']
    cases r'.awaiting <;> rfl

end Reader

variable {table : PrefixTable}

/-- The lines that tokens stand on show in errors only. -/
theorem statements_agree {tokens tokens' : List Token}
    (same : tokens.map Token.lexeme = tokens'.map Token.lexeme) :
    Agree Eq (statements table tokens) (statements table tokens') := by
  have start : Reader.Alike .start .start := ⟨rfl, .nil, rfl, rfl⟩
  have read : Agree Reader.Alike (Reader.start.run table tokens) (Reader.start.run table tokens') :=
    Reader.run_agree start same
  exact read.bind fun a a' h => Reader.finish_agree h _ _

/-! ## Blocks -/

/-- What is read from the lines of a layout. -/
theorem parse_of_lays {tokens : List Spelling} {bindings : List (String × String)}
    {lines : List (List Char)} (h : Lays tokens bindings lines) (number : Int) :
    ∃ found : List Token, found.map Token.lexeme = tokens.map Spelling.lexeme ∧
      parse (String.ofList (joined lines)) number =
        (statements (bindings.reverse ++ .standard) found).mapError .grammar := by
  obtain ⟨found, same, taken⟩ := addLines_of_lays h .empty number
  refine ⟨found, same, ?_⟩
  rw [parse, String.toList_ofList, addLines_joined h.unbroken, taken]
  show (statements (bindings.reverse ++ .standard) (found.reverse ++ []).reverse).mapError _ = _
  rw [List.append_nil, List.reverse_reverse]

/-- Blocks that lay out the same tokens and the same declarations have the same triples, or the same
fault. Only the line to blame may be another one. -/
theorem parse_layout {tokens : List Spelling} {bindings : List (String × String)}
    {lines lines' : List (List Char)} (h : Lays tokens bindings lines)
    (h' : Lays tokens bindings lines') (number number' : Int) :
    (∃ ts, parse (String.ofList (joined lines)) number = .ok ts ∧
        parse (String.ofList (joined lines')) number' = .ok ts) ∨
      ∃ e e' : GrammarError, parse (String.ofList (joined lines)) number = .error (.grammar e) ∧
        parse (String.ofList (joined lines')) number' = .error (.grammar e') ∧
        e.fault = e'.fault := by
  obtain ⟨found, same, read⟩ := parse_of_lays h number
  obtain ⟨found', same', read'⟩ := parse_of_lays h' number'
  have agree : Agree Eq (statements (bindings.reverse ++ .standard) found)
      (statements (bindings.reverse ++ .standard) found') :=
    statements_agree (same.trans same'.symm)
  rw [read, read']
  cases result : statements (bindings.reverse ++ .standard) found with
  | ok ts =>
    cases result' : statements (bindings.reverse ++ .standard) found' with
    | ok ts' =>
      rw [result, result'] at agree
      cases agree
      exact Or.inl ⟨ts, rfl, rfl⟩
    | error e' => simp [result, result', Agree, InStep] at agree
  | error e =>
    cases result' : statements (bindings.reverse ++ .standard) found' with
    | ok ts' => simp [result, result', Agree, InStep] at agree
    | error e' =>
      rw [result, result'] at agree
      exact Or.inr ⟨e, e', rfl, rfl, agree⟩

/-- A statement, token by token. -/
def sampleTokens : List Spelling :=
  [⟨_, _, @Spelled.word ['n', ':', 'a'] (by decide) (List.all_eq_true.mp (by decide)) (by decide)
      (by decide) (by decide)⟩,
    ⟨_, _, @Spelled.uri ['p'] (by decide) (by decide)⟩,
    ⟨_, _, .quoted (.plain (by decide) (by decide) .nil : QuotedBody ['x'] ['x'])
      (.language (List.all_eq_true.mp (by decide)) : Suffix ['@', 'e', 'n']) (by decide)⟩,
    ⟨_, _, .stop⟩]

/-- The statement on one line, after the prefix that it uses. -/
def compactLines : List (List Char) :=
  ["@prefix n: <urn:n#> .".toList, "n:a <p> \"x\"@en .".toList]

/-- The statement over several lines, with the prefix among them. -/
def looseLines : List (List Char) :=
  ["# n".toList, "n:a".toList, "".toList, "\t<p>  \"x\"@en".toList, " @prefix n: <urn:n#> .".toList,
    " . ".toList]

/-- A statement on one line and over several lines, with the same triples. -/
theorem parse_layout_loose :
    Lays sampleTokens [("n", "urn:n#")] compactLines ∧
      Lays sampleTokens [("n", "urn:n#")] looseLines ∧
      ((∃ ts, parse (String.ofList (joined compactLines)) 1 = .ok ts ∧
          parse (String.ofList (joined looseLines)) 7 = .ok ts) ∨
        ∃ e e' : GrammarError, parse (String.ofList (joined compactLines)) 1 = .error (.grammar e) ∧
          parse (String.ofList (joined looseLines)) 7 = .error (.grammar e') ∧
          e.fault = e'.fault) := by
  have compact : Lays sampleTokens [("n", "urn:n#")] compactLines := by
    have spread : Spread sampleTokens "n:a <p> \"x\"@en .".toList :=
      .token [] _ (by decide) (.token [' '] _ (by decide) (.token [' '] _ (by decide)
        (.token [' '] _ (by decide) (.gap (by decide)) (by decide)) (by decide)) (by decide))
        (by decide)
    exact .declaration (by decide) (by decide) (.tokens spread .nil)
  have loose : Lays sampleTokens [("n", "urn:n#")] looseLines := by
    have first : Spread (sampleTokens.take 1) "n:a".toList :=
      .token [] _ (by decide) (.gap (by decide)) (by decide)
    have second : Spread ((sampleTokens.drop 1).take 2) "\t<p>  \"x\"@en".toList :=
      .token ['\t'] _ (by decide) (.token [' ', ' '] _ (by decide) (.gap (by decide)) (by decide))
        (by decide)
    have third : Spread (sampleTokens.drop 3) " . ".toList :=
      .token [' '] _ (by decide) (.gap (by decide)) (by decide)
    have behind : Lays (sampleTokens.drop 1) [("n", "urn:n#")] (looseLines.drop 3) :=
      .tokens second (.declaration (by decide) (by decide) (.tokens third .nil))
    exact .comment [] [' ', 'n'] (by simp) (by decide)
      (.tokens first (.blank (by simp) (by decide) behind))
  exact ⟨compact, loose, parse_layout compact loose 1 7⟩

end DocGraph.Block
