import DocGraph.Block.Parse
import DocGraph.Proofs.Block.Blame
import Mathlib

/-!
# Where an error is

An error names a line of the file, and what is to blame is to stand there. In a block that is not closed
this is the start marker. A line that is faulty by itself is to blame for that, if it is the first one.
Otherwise it is one of the tokens, which `Blames` tells from the others. `Blamed` says all this of the
text, without counting anything, and by `Blamed.unique` there is one such place.

The number that is named counts two things. Before the block it counts line feeds, and in the block it
counts the lines that were read, which end at every line break. A form feed in a block is counted
although no line of the file ends there. `parseDocument_blames` says by how much the number is off; the
text has no carriage returns, as is the case when it was read from a file.
-/

set_option autoImplicit false

namespace DocGraph.Block

open Text (Unbroken LineAt)

/-! ## What is to blame in a text -/

/-- What a line is wrong with by itself. -/
def faultOn? (line : List Char) : Option Fault :=
  let line := Text.trim line
  if line.isEmpty || line.head? = some '#' then none
  else if prefixWord.toList.isPrefixOf line then
    if (declaration? line).isSome then none else some (.malformedPrefix (String.ofList line))
  else
    match lexemes line with
    | .ok _ => none
    | .error fault => fault

/-- The tokens on a line. -/
def tokensOn (line : List Char) : List Lexeme :=
  let line := Text.trim line
  if line.isEmpty || line.head? = some '#' || prefixWord.toList.isPrefixOf line then []
  else
    match lexemes line with
    | .ok found => found
    | .error _ => []

/-- The block of a text, and what stands before it. -/
def BlockAt (content lead block : List Char) : Prop :=
  ∃ before body raw behind, Text.breakOn startMarker.toList content = some (before, body) ∧
    Text.breakOn endMarker.toList body = some (raw, behind) ∧
    lead = before ++ (startMarker.toList ++ raw.takeWhile Text.isBlank) ∧ block = Text.trim raw

/-- A place in a text: what stands before the block, what of the block stands before the line of the
place, and the line. -/
structure Place where
  lead : List Char
  inside : List Char
  line : List Char

/-- All that stands before the line of a place. -/
def Place.before (p : Place) : List Char :=
  p.lead ++ p.inside

/-- What is to blame for a fault. -/
inductive Blamed (content : List Char) : Fault → Place → Prop
  /-- The start marker has no end marker behind it. -/
  | marker {before body : List Char}
      (opens : Text.breakOn startMarker.toList content = some (before, body))
      (notClosed : Text.breakOn endMarker.toList body = none) :
      Blamed content .blockNotClosed ⟨before, [], startMarker.toList⟩
  /-- A line is faulty, and none before it is. -/
  | line {fault : Fault} {lead block inside line behind : List Char}
      (located : BlockAt content lead block) (stands : LineAt block inside line behind)
      (sound : ∀ l ∈ Text.lines inside, faultOn? l = none) (faulty : faultOn? line = some fault) :
      Blamed content fault ⟨lead, inside, line⟩
  /-- No line is faulty, and one of the tokens is to blame. -/
  | token {fault : Fault} {lead block inside line behind : List Char} {front rest : List Lexeme}
      {t : Lexeme} (located : BlockAt content lead block)
      (stands : LineAt block inside line behind) (sound : ∀ l ∈ Text.lines block, faultOn? l = none)
      (here : tokensOn line = front ++ t :: rest)
      (blames : Blames fault ((Text.lines inside).flatMap tokensOn ++ front) t
        (rest ++ (Text.lines behind.tail).flatMap tokensOn)) :
      Blamed content fault ⟨lead, inside, line⟩

/-! ## Lines and their numbers -/

/-- A line that is taken in has no fault, and its tokens are added. -/
theorem addLine_ok {acc next : Lexed} {number : Int} {line : List Char}
    (h : acc.addLine number (Text.trim line) = .ok next) : faultOn? line = none ∧
      next.tokens = ((tokensOn line).map (Token.mk · number)).reverse ++ acc.tokens := by
  unfold faultOn? tokensOn
  cases lineTaken_of_addLine h with
  | pass passed => simp [passed]
  | declaration counts begins declares => simp [begins, declares]
  | tokens counts plain read => simp [counts, plain, read]

/-- A line that is not taken in has a fault, and is blamed for it. -/
theorem addLine_error {acc : Lexed} {number : Int} {line : List Char} {e : GrammarError}
    (h : acc.addLine number (Text.trim line) = .error (.grammar e)) :
    faultOn? line = some e.fault ∧ e.line = some number := by
  unfold faultOn?
  cases lineTaken_of_addLine h with
  | malformed counts begins missing => simp [counts, begins, missing]
  | fault counts plain read => simp [counts, plain, read]

/-- The tokens on some lines, each with the number of its line. -/
def numbered (number : Int) : List (List Char) → List Token
  | [] => []
  | line :: rest => (tokensOn line).map (Token.mk · number) ++ numbered (number + 1) rest

/-- Without their numbers, the tokens of some lines are those on each of them. -/
theorem numbered_lexemes (number : Int) (lines : List (List Char)) :
    (numbered number lines).map Token.lexeme = lines.flatMap tokensOn := by
  induction lines generalizing number with
  | nil => rfl
  | cons line rest ih =>
    rw [numbered, List.map_append, ih, List.map_map, List.flatMap_cons]
    congr 1
    exact List.map_id' _

/-- A token stands on the line that its number says. -/
theorem exists_line_of_numbered {number : Int} {lines : List (List Char)} {front behind : List Token}
    {t : Token} (h : numbered number lines = front ++ t :: behind) :
    ∃ first line later left right, lines = first ++ line :: later ∧
      tokensOn line = left ++ t.lexeme :: right ∧ t.line = number + first.length ∧
      front.map Token.lexeme = first.flatMap tokensOn ++ left ∧
      behind.map Token.lexeme = right ++ later.flatMap tokensOn := by
  induction lines generalizing number front with
  | nil => simp [numbered] at h
  | cons line rest ih =>
    rw [numbered] at h
    have same : ((tokensOn line).map (Token.mk · number)).map Token.lexeme = tokensOn line := by
      rw [List.map_map]
      exact List.map_id' _
    have further : ∀ passed, front = (tokensOn line).map (Token.mk · number) ++ passed →
        numbered (number + 1) rest = passed ++ t :: behind →
        ∃ first l later left right, line :: rest = first ++ l :: later ∧
          tokensOn l = left ++ t.lexeme :: right ∧ t.line = number + first.length ∧
          front.map Token.lexeme = first.flatMap tokensOn ++ left ∧
          behind.map Token.lexeme = right ++ later.flatMap tokensOn := by
      rintro passed rfl others
      obtain ⟨first, l, later, left, right, rfl, on, named, earlier, after⟩ := ih others
      refine ⟨line :: first, l, later, left, right, rfl, on, ?_, ?_, after⟩
      · rw [named, List.length_cons]
        push_cast
        omega
      · rw [List.map_append, same, earlier, List.flatMap_cons, List.append_assoc]
    rcases List.append_eq_append_iff.mp h with ⟨passed, before, others⟩ | ⟨found, here, others⟩
    · exact further passed before others
    · cases found with
      | nil =>
        rw [List.append_nil] at here
        exact further [] (by rw [here, List.append_nil]) others.symm
      | cons u found =>
        rw [List.cons_append] at others
        obtain ⟨rfl, rfl⟩ := List.cons.inj others
        have whole := same
        rw [here, List.map_append, List.map_cons] at whole
        refine ⟨[], line, rest, front.map Token.lexeme, found.map Token.lexeme, rfl, whole.symm,
          ?_, rfl, ?_⟩
        · have member : t ∈ (tokensOn line).map (Token.mk · number) := by simp [here]
          obtain ⟨l, -, rfl⟩ := List.mem_map.mp member
          simp
        · rw [List.map_append, numbered_lexemes]

/-- Lines that are taken in have no fault, and their tokens are added. -/
theorem addLines_ok {lines : List (List Char)} {acc final : Lexed} {number : Int}
    (h : acc.addLines number lines = .ok final) : (∀ l ∈ lines, faultOn? l = none) ∧
      final.tokens = (numbered number lines).reverse ++ acc.tokens := by
  induction lines generalizing acc number with
  | nil =>
    cases h
    exact ⟨by simp, rfl⟩
  | cons line rest ih =>
    rw [Lexed.addLines_cons] at h
    obtain ⟨next, taken, h⟩ := bind_eq_ok_iff.mp h
    obtain ⟨sound, tokens⟩ := addLine_ok taken
    obtain ⟨others, all⟩ := ih h
    refine ⟨List.forall_mem_cons.mpr ⟨sound, others⟩, ?_⟩
    rw [all, tokens, numbered, List.reverse_append, List.append_assoc]

/-- Of lines that are not taken in the first one with a fault is blamed. -/
theorem addLines_error {lines : List (List Char)} {acc : Lexed} {number : Int} {e : GrammarError}
    (h : acc.addLines number lines = .error (.grammar e)) :
    ∃ first line later, lines = first ++ line :: later ∧ (∀ l ∈ first, faultOn? l = none) ∧
      faultOn? line = some e.fault ∧ e.line = some (number + first.length) := by
  induction lines generalizing acc number with
  | nil => cases h
  | cons line rest ih =>
    rw [Lexed.addLines_cons] at h
    rcases bind_eq_error_iff.mp h with fails | ⟨next, taken, h⟩
    · obtain ⟨fault, named⟩ := addLine_error fails
      exact ⟨[], line, rest, rfl, by simp, fault, by simpa using named⟩
    · obtain ⟨first, faulty, later, rfl, sound, fault, named⟩ := ih h
      refine ⟨line :: first, faulty, later, rfl,
        List.forall_mem_cons.mpr ⟨(addLine_ok taken).1, sound⟩, fault, ?_⟩
      rw [named, List.length_cons]
      push_cast
      congr 1
      omega

/-! ## From the block to the text -/

/-- The line breaks of a text that are no line feeds. -/
def strayBreaks (s : List Char) : Nat :=
  s.countP fun c => Text.isLineBreak c && c != '\n'

/-- Line breaks are line feeds or others. -/
theorem countP_isLineBreak (s : List Char) :
    s.countP Text.isLineBreak = lineFeeds s + strayBreaks s := by
  have broken : Text.isLineBreak '\n' = true := by decide
  induction s with
  | nil => rfl
  | cons c s ih =>
    unfold lineFeeds strayBreaks at ih ⊢
    rw [List.countP_cons, List.countP_cons, List.count_cons, ih]
    by_cases feed : c = '\n'
    · simp [feed, broken]
      omega
    · simp [feed]
      omega

/-- The line feeds of two texts add up. -/
theorem lineFeeds_append (s t : List Char) : lineFeeds (s ++ t) = lineFeeds s + lineFeeds t :=
  List.count_append

/-- There are no line feeds where there are no line breaks. -/
theorem lineFeeds_of_unbroken {s : List Char} (h : Unbroken s) : lineFeeds s = 0 := by
  refine List.count_eq_zero.mpr fun member => ?_
  have whole := h _ member
  revert whole
  decide

/-- A text that is cut at a pattern is put together from the parts and the pattern. -/
theorem append_of_breakOn {pattern s before after : List Char}
    (h : Text.breakOn pattern s = some (before, after)) : s = before ++ (pattern ++ after) := by
  have general : ∀ passed s, Text.breakOnFrom pattern passed s = some (before, after) →
      passed.reverse ++ s = before ++ (pattern ++ after) := by
    intro passed s
    induction s generalizing passed with
    | nil =>
      intro cut
      rw [Text.breakOnFrom] at cut
      split at cut
      next empty =>
        cases cut
        rw [List.isEmpty_iff.mp empty]
        rfl
      · cases cut
    | cons c s ih =>
      intro cut
      rw [Text.breakOnFrom] at cut
      split at cut
      next begins =>
        cases cut
        rw [List.append_eq_of_isPrefixOf?_eq_some begins]
      · rw [← ih _ cut, List.reverse_cons, List.append_assoc, List.singleton_append]
  exact general [] s h

/-- A block stands in a text between what leads to it and what comes behind it. -/
theorem BlockAt.whole {content lead block : List Char} (h : BlockAt content lead block) :
    ∃ behind, content = lead ++ (block ++ behind) := by
  obtain ⟨before, body, raw, behind, opens, closes, rfl, rfl⟩ := h
  obtain ⟨back, cut⟩ := Text.trimBack_isPrefix (Text.trimFront raw)
  refine ⟨back ++ (endMarker.toList ++ behind), ?_⟩
  have front : raw.takeWhile Text.isBlank ++ Text.trimFront raw = raw :=
    List.takeWhile_append_dropWhile
  rw [append_of_breakOn opens, append_of_breakOn closes, Text.trim]
  simp only [List.append_assoc]
  rw [← List.append_assoc (Text.trimBack _), cut, ← List.append_assoc (raw.takeWhile _), front]

/-- A block is not closed if no end marker follows the first start marker; the line of the start
marker is blamed. -/
theorem locate_error {content : String} {e : GrammarError} (h : locate content = .error e) :
    ∃ before body, Text.breakOn startMarker.toList content.toList = some (before, body) ∧
      Text.breakOn endMarker.toList body = none ∧
      e = ⟨.blockNotClosed, some (lineFeeds before + 1)⟩ := by
  unfold locate at h
  split at h
  · cases h
  next before body opens =>
    split at h
    next notClosed =>
      cases h
      exact ⟨before, body, opens, notClosed, rfl⟩
    next raw behind closes =>
      dsimp only at h
      split at h <;> cases h

/-- What is located stands in the text, on the line that is told. -/
theorem blockAt_of_locate {content : String} {b : Located} (h : locate content = .ok (some b)) :
    ∃ lead, BlockAt content.toList lead b.text.toList ∧ b.line = lineFeeds lead + 1 := by
  unfold locate at h
  split at h
  · cases h
  next before body opens =>
    split at h
    · cases h
    next raw behind closes =>
      dsimp only at h
      split at h
      · cases h
      · cases h
        have marker : lineFeeds startMarker.toList = 0 := by decide
        refine ⟨_, ⟨before, body, raw, behind, opens, closes, rfl, String.toList_ofList⟩, ?_⟩
        rw [lineFeeds_append, lineFeeds_append, marker]
        dsimp only
        omega

/-- The line of a place that is blamed stands in the text where the place says. -/
theorem Blamed.isPrefix {content : List Char} {fault : Fault} {place : Place}
    (h : Blamed content fault place) : place.before ++ place.line <+: content := by
  have inBlock : ∀ {lead block inside line behind : List Char}, BlockAt content lead block →
      LineAt block inside line behind → lead ++ inside ++ line <+: content := by
    intro lead block inside line behind located stands
    obtain ⟨after, whole⟩ := located.whole
    refine ⟨behind ++ after, ?_⟩
    rw [whole, stands.whole]
    simp only [List.append_assoc]
  cases h with
  | @marker before body opens _ =>
    refine ⟨body, ?_⟩
    rw [Place.before, List.append_nil, List.append_assoc, ← append_of_breakOn opens]
  | line located stands _ _ => exact inBlock located stands
  | token located stands _ _ _ => exact inBlock located stands

/-- There is one block in a text, at one place. -/
theorem BlockAt.unique {content lead block lead' block' : List Char}
    (h : BlockAt content lead block) (h' : BlockAt content lead' block') :
    lead = lead' ∧ block = block' := by
  obtain ⟨before, body, raw, behind, opens, closes, rfl, rfl⟩ := h
  obtain ⟨before', body', raw', behind', opens', closes', rfl, rfl⟩ := h'
  obtain ⟨rfl, rfl⟩ := Prod.mk.inj (Option.some.inj (opens.symm.trans opens'))
  obtain ⟨rfl, rfl⟩ := Prod.mk.inj (Option.some.inj (closes.symm.trans closes'))
  exact ⟨rfl, rfl⟩

/-- A block that stands in a text is closed. -/
theorem BlockAt.closed {content lead block before body : List Char}
    (h : BlockAt content lead block)
    (opens : Text.breakOn startMarker.toList content = some (before, body)) :
    Text.breakOn endMarker.toList body ≠ none := by
  obtain ⟨before', body', raw, behind, opens', closes, -, -⟩ := h
  obtain ⟨rfl, rfl⟩ := Prod.mk.inj (Option.some.inj (opens.symm.trans opens'))
  simp [closes]

/-- Lines without faults are not lines of which one has a fault. -/
theorem ne_of_faulty {all first later : List (List Char)} {line : List Char} {fault : Fault}
    (sound : ∀ l ∈ all, faultOn? l = none) (faulty : faultOn? line = some fault) :
    all ≠ first ++ line :: later := by
  rintro rfl
  rw [sound line (by simp)] at faulty
  cases faulty

/-- An empty line has no fault. -/
theorem ne_nil_of_faulty {line : List Char} {fault : Fault} (faulty : faultOn? line = some fault) :
    line ≠ [] := by
  rintro rfl
  cases faulty

/-- An empty line has no tokens. -/
theorem ne_nil_of_tokens {line : List Char} {front rest : List Lexeme} {t : Lexeme}
    (here : tokensOn line = front ++ t :: rest) : line ≠ [] := by
  rintro rfl
  have none_ : tokensOn [] = [] := rfl
  rw [none_] at here
  simp at here

/-- What stands before a token of a line is less than what stands before a later line. -/
theorem length_lt_of_later {all first later : List (List Char)} {line : List Char}
    {front rest : List Lexeme} {t : Lexeme} (here : tokensOn line = front ++ t :: rest)
    (cut : all = first ++ line :: later) :
    (first.flatMap tokensOn ++ front).length < (all.flatMap tokensOn).length := by
  rw [cut, List.flatMap_append, List.flatMap_cons, here]
  simp only [List.length_append, List.length_cons]
  omega

/-- For a fault in a text one place is to blame. -/
theorem Blamed.unique {content : List Char} (noReturn : '\r' ∉ content) {fault : Fault}
    {place other : Place} (h : Blamed content fault place) (h' : Blamed content fault other) :
    place = other := by
  have clean : ∀ {lead block : List Char}, BlockAt content lead block → '\r' ∉ block := by
    intro lead block located member
    obtain ⟨behind, whole⟩ := located.whole
    exact noReturn (by simp [whole, member])
  cases h with
  | marker opens notClosed =>
    cases h' with
    | marker opens' notClosed' =>
      obtain ⟨rfl, rfl⟩ := Prod.mk.inj (Option.some.inj (opens.symm.trans opens'))
      rfl
    | line located _ _ _ => exact absurd notClosed (located.closed opens)
    | token located _ _ _ _ => exact absurd notClosed (located.closed opens)
  | line located stands sound faulty =>
    cases h' with
    | marker opens notClosed => exact absurd notClosed (located.closed opens)
    | line located' stands' sound' faulty' =>
      obtain ⟨rfl, rfl⟩ := located.unique located'
      obtain ⟨rfl, rfl⟩ := stands.unique stands' (clean located)
        (fun _ => ne_of_faulty sound' faulty) (fun _ => ne_of_faulty sound faulty')
      rfl
    | token located' _ sound' _ _ =>
      obtain ⟨rfl, rfl⟩ := located.unique located'
      exact absurd (stands.lines (clean located) (ne_nil_of_faulty faulty))
        (ne_of_faulty sound' faulty)
  | token located stands sound here blames =>
    cases h' with
    | marker opens notClosed => exact absurd notClosed (located.closed opens)
    | line located' stands' _ faulty' =>
      obtain ⟨rfl, rfl⟩ := located.unique located'
      exact absurd (stands'.lines (clean located) (ne_nil_of_faulty faulty'))
        (ne_of_faulty sound faulty')
    | token located' stands' _ here' blames' =>
      obtain ⟨rfl, rfl⟩ := located.unique located'
      have cut := stands.lines (clean located) (ne_nil_of_tokens here)
      have cut' := stands'.lines (clean located) (ne_nil_of_tokens here')
      -- Both tokens are among those of the block, of which one is to blame.
      have same := congrArg (List.flatMap tokensOn) (cut.symm.trans cut')
      rw [List.flatMap_append, List.flatMap_cons, here, List.flatMap_append, List.flatMap_cons,
        here'] at same
      have fronts := congrArg List.length (blames.unique blames' (by simpa using same))
      obtain ⟨rfl, rfl⟩ := stands.unique stands' (clean located)
        (fun _ first => by
          have less := length_lt_of_later here first
          simp only [List.length_append] at fronts less
          omega)
        (fun _ first => by
          have less := length_lt_of_later here' first
          simp only [List.length_append] at fronts less
          omega)
      rfl

/-- The line that an error in a block names is numbered by the breaks before it. -/
theorem parse_blames {content lead : List Char} {block : String} {number : Int} {e : GrammarError}
    (located : BlockAt content lead block.toList) (noReturn : '\r' ∉ block.toList)
    (h : parse block number = .error (.grammar e)) :
    ∃ inside line, Blamed content e.fault ⟨lead, inside, line⟩ ∧ Unbroken line ∧
      e.line = some (number + inside.countP Text.isLineBreak) := by
  unfold parse at h
  cases taken : Lexed.empty.addLines number (Text.lines block.toList) with
  | error failure =>
    -- A line is faulty, and the lines before it are not.
    rw [taken] at h
    cases h
    obtain ⟨first, line, later, split_, sound, faulty, named⟩ := addLines_error taken
    obtain ⟨inside, behind, stands, rfl, -, count⟩ := Text.exists_lineAt noReturn split_
    refine ⟨inside, line, .line located stands sound faulty, stands.unbroken, ?_⟩
    rw [named, count]
  | ok lexed =>
    rw [taken] at h
    obtain ⟨sound, tokens⟩ := addLines_ok taken
    have read : (statements lexed.prefixes lexed.tokens.reverse).mapError Failure.grammar =
        .error (.grammar e) := h
    cases result : statements lexed.prefixes lexed.tokens.reverse with
    | ok ts =>
      rw [result] at read
      cases read
    | error e' =>
      rw [result] at read
      cases read
      -- No line is, so one of the tokens is to blame, and its number leads back to a line.
      rw [tokens] at result
      obtain ⟨front, t, rest, split_, named, blames⟩ := statements_blames result
      have all : numbered number (Text.lines block.toList) = front ++ t :: rest := by
        rw [← split_]
        simp [Lexed.empty]
      obtain ⟨first, line, later, left, right, cut, here, number_, earlier, further⟩ :=
        exists_line_of_numbered all
      obtain ⟨inside, behind, stands, rfl, rfl, count⟩ := Text.exists_lineAt noReturn cut
      rw [earlier, further] at blames
      refine ⟨inside, line, .token located stands sound here blames, stands.unbroken, ?_⟩
      rw [named, number_, count]

/-- An error in a text names a number that is off by the breaks that are no line feeds. -/
theorem exists_blamed {content : String} (noReturn : '\r' ∉ content.toList) {e : GrammarError}
    (h : parseDocument content = .error (.grammar e)) :
    ∃ place : Place, Blamed content.toList e.fault place ∧ Unbroken place.line ∧
      e.line = some (1 + lineFeeds place.before + strayBreaks place.inside) := by
  unfold parseDocument at h
  cases found : locate content with
  | error e' =>
    rw [found] at h
    cases h
    obtain ⟨before, body, opens, notClosed, rfl⟩ := locate_error found
    have unbroken : Unbroken startMarker.toList := by decide
    refine ⟨_, .marker opens notClosed, unbroken, ?_⟩
    simp [Place.before, strayBreaks]
    omega
  | ok b? =>
    rw [found] at h
    cases b? with
    | none => cases h
    | some b =>
      obtain ⟨lead, located, number⟩ := blockAt_of_locate found
      obtain ⟨behind, whole⟩ := located.whole
      have clean : '\r' ∉ b.text.toList := fun member => noReturn (by simp [whole, member])
      obtain ⟨inside, line, blamed, unbroken, named⟩ := parse_blames located clean h
      refine ⟨_, blamed, unbroken, ?_⟩
      rw [named, number, countP_isLineBreak, Place.before, lineFeeds_append]
      push_cast
      congr 1
      omega

/-- An error in a text names a line, and one place is to blame for it. The number of the line is one
more than there are line feeds before this place, wherever on its line it is, and the other line breaks
in the block before that line are counted as well. -/
theorem parseDocument_blames {content : String} (noReturn : '\r' ∉ content.toList)
    {e : GrammarError} (h : parseDocument content = .error (.grammar e)) :
    ∃ place : Place, (∀ other, Blamed content.toList e.fault other ↔ other = place) ∧
      place.before ++ place.line <+: content.toList ∧ ∀ part, part <+: place.line →
        e.line = some (1 + lineFeeds (place.before ++ part) + strayBreaks place.inside) := by
  obtain ⟨place, blamed, unbroken, named⟩ := exists_blamed noReturn h
  refine ⟨place, fun other => ⟨fun also => also.unique noReturn blamed, ?_⟩, blamed.isPrefix, ?_⟩
  · rintro rfl
    exact blamed
  · intro part column
    have none_ : lineFeeds part = 0 :=
      lineFeeds_of_unbroken (unbroken.of_subset column.subset)
    rw [named, lineFeeds_append, none_, Nat.add_zero]

/-- A block with a page break on its second line, and a prefix that is malformed on the third one. -/
def pagedText : String :=
  startMarker ++ "\n# a\n\x0c\n@prefix x\n" ++ endMarker

/-- Behind a form feed the fifth line is blamed. -/
theorem parseDocument_pagedText :
    parseDocument pagedText = .error (.grammar ⟨.malformedPrefix "@prefix x", some 5⟩) := by
  cbv

/-- What is to blame stands behind three line feeds and a page break, and that makes five. -/
theorem parseDocument_blames_in_paged :
    '\r' ∉ pagedText.toList ∧
      parseDocument pagedText = .error (.grammar ⟨.malformedPrefix "@prefix x", some 5⟩) ∧
      ∃ place, Blamed pagedText.toList (.malformedPrefix "@prefix x") place ∧
        lineFeeds place.before + strayBreaks place.inside = 4 := by
  have noReturn : '\r' ∉ pagedText.toList := by decide +kernel
  obtain ⟨place, only, -, named⟩ := parseDocument_blames noReturn parseDocument_pagedText
  refine ⟨noReturn, parseDocument_pagedText, place, (only place).mpr rfl, ?_⟩
  have count := Option.some.inj (named [] List.nil_prefix)
  rw [List.append_nil] at count
  omega

/-- The line that is named there is not that of the place to blame, which is the fourth one. -/
theorem pagedText_misnumbered :
    '\r' ∉ pagedText.toList ∧
      parseDocument pagedText = .error (.grammar ⟨.malformedPrefix "@prefix x", some 5⟩) ∧
      (∃ place, Blamed pagedText.toList (.malformedPrefix "@prefix x") place) ∧
      ∀ place, Blamed pagedText.toList (.malformedPrefix "@prefix x") place →
        1 + lineFeeds place.before = 4 := by
  have noReturn : '\r' ∉ pagedText.toList := by decide +kernel
  have located : BlockAt pagedText.toList (startMarker.toList ++ ['\n'])
      "# a\n\x0c\n@prefix x".toList :=
    ⟨[], "\n# a\n\x0c\n@prefix x\n".toList ++ endMarker.toList,
      "\n# a\n\x0c\n@prefix x\n".toList, [], by cbv, by cbv, by cbv, by cbv⟩
  have stands : LineAt "# a\n\x0c\n@prefix x".toList "# a\n\x0c\n".toList "@prefix x".toList [] :=
    ⟨by decide, by decide, by rintro c ⟨⟩; decide, by rintro c ⟨⟩⟩
  have sound : ∀ l ∈ Text.lines "# a\n\x0c\n".toList, faultOn? l = none := by decide +kernel
  have faulty : faultOn? "@prefix x".toList = some (.malformedPrefix "@prefix x") := by
    decide +kernel
  have blamed := Blamed.line located stands sound faulty
  refine ⟨noReturn, parseDocument_pagedText, ⟨_, blamed⟩, fun place also => ?_⟩
  rw [also.unique noReturn blamed]
  decide

end DocGraph.Block
