import DocGraph.Proofs.Block.Spelling
import DocGraph.Proofs.Block.Unclosed
import Mathlib

/-!
# How many turns the reading of a line takes

The reading of a line goes from index to index. A turn finds tokens at one index and gives the next one,
or a fault. By how much the index moves is counted for each kind of token: `stepWidth`. That this stays on
the line and leaves what a step leaves is `leaves_scan`. Every turn gets further, unless a closing angle
bracket stands where it starts: there it finds an empty word and stays where it is.

So there are two kinds of lines. If no turn starts at a closing bracket, the reading ends after at most as
many turns as the line has characters, and no word that it finds is empty. If one does, the reading goes
on for ever. `turns_advance` says so, and that `lexemes` is what the turns come to.
-/

set_option autoImplicit false

namespace DocGraph.Block

/-! ## By how much a step gets further -/

/-- How many characters a quoted text takes behind its opening quote, its closing quote included. -/
def quotedWidth : List Char → Nat
  | [] => 0
  | '\\' :: _ :: rest => 2 + quotedWidth rest
  | '"' :: _ => 1
  | _ :: rest => 1 + quotedWidth rest

/-- How many characters a reference takes behind its opening bracket, its closing bracket included. -/
def uriWidth (s : List Char) : Nat :=
  s.idxOf '>' + 1

/-- How many characters a word takes. -/
def wordWidth (s : List Char) : Nat :=
  (s.takeWhile fun c => !endsWord c).length

/-- How many characters a language tag or a datatype takes behind a quoted text. A full stop at the end
of the name of a datatype is given back if it ends the statement, and a bracket that is not closed takes
all that there is. -/
def suffixWidth : List Char → Nat
  | '@' :: rest => 1 + (rest.takeWhile fun c => Text.isAlphanumeric c || c = '-').length
  | '^' :: '^' :: '<' :: rest => 3 + if '>' ∈ rest then uriWidth rest else rest.length
  | '^' :: '^' :: rest =>
    let word := wordWidth rest
    2 + if (rest.take word).getLast? = some '.' ∧ endsStatement (rest.drop word) then word - 1 else word
  | _ => 0

/-- By how much a step gets further at a character with some others behind it. -/
def stepWidth (c : Char) (rest : List Char) : Nat :=
  if Text.isBlank c then 1
  else if c = '<' then 1 + uriWidth rest
  else if c = '"' then 1 + (quotedWidth rest + suffixWidth (rest.drop (quotedWidth rest)))
  else if c = '[' ∨ c = ']' ∨ c = ';' ∨ c = ',' then 1
  else if c = '.' ∧ endsStatement rest then 1
  else wordWidth (c :: rest)

variable {c : Char} {s rest after : List Char} {found : List Lexeme}

/-- A number of characters can be taken from a text, and this is left. -/
def Leaves (s : List Char) (width : Nat) (after : List Char) : Prop :=
  width ≤ s.length ∧ s.drop width = after

/-- What is behind some characters is left of them. -/
theorem leaves_append (front after : List Char) : Leaves (front ++ after) front.length after :=
  ⟨by simp, List.drop_left⟩

/-- What is left behind the first characters that pass a test. -/
theorem leaves_dropWhile (p : Char → Bool) (s : List Char) :
    Leaves s (s.takeWhile p).length (s.dropWhile p) := by
  have left_ := leaves_append (s.takeWhile p) (s.dropWhile p)
  rwa [List.takeWhile_append_dropWhile] at left_

/-- What is left of some characters is left of more. -/
theorem Leaves.cons {width : Nat} (h : Leaves s width after) (c : Char) :
    Leaves (c :: s) (1 + width) after := by
  obtain ⟨fits, rfl⟩ := h
  exact ⟨by rw [List.length_cons]; omega, by rw [Nat.add_comm, List.drop_succ_cons]⟩

/-- Taking goes on where it left off. -/
theorem Leaves.trans {width more : Nat} {middle : List Char} (h : Leaves s width middle)
    (h' : Leaves middle more after) : Leaves s (width + more) after := by
  obtain ⟨fits, rfl⟩ := h
  obtain ⟨fits', rfl⟩ := h'
  rw [List.length_drop] at fits'
  exact ⟨by omega, by rw [List.drop_drop]⟩

/-- One sign is taken. -/
theorem leaves_one (c : Char) (rest : List Char) : Leaves (c :: rest) 1 rest :=
  leaves_append [c] rest

/-- What is left behind a quoted text. -/
theorem leaves_quoted {value text : List Char}
    (h : readQuotedFrom value s = some (text, after)) : Leaves s (quotedWidth s) after := by
  fun_induction readQuotedFrom value s with
  | case1 => cases h
  | case2 value c rest ih =>
    have inner := ((ih h).cons c).cons '\\'
    rw [quotedWidth]
    rwa [← Nat.add_assoc] at inner
  | case3 value rest =>
    cases h
    exact leaves_one _ _
  | case4 value c rest noEscape noQuote ih =>
    rw [quotedWidth]
    · exact (ih h).cons c
    · exact noEscape
    · exact noQuote

/-- What is left behind a closing bracket. -/
theorem leaves_closing (known : '>' ∈ s) : Leaves s (uriWidth s) (afterUri s) := by
  obtain ⟨front, behind, rfl, closed⟩ := List.eq_append_cons_of_mem known
  have place : (front ++ '>' :: behind).idxOf '>' = front.length := by
    rw [List.idxOf_append_of_notMem closed, List.idxOf_cons_self, Nat.add_zero]
  have left_ := leaves_append (front ++ ['>']) behind
  rw [afterUri_closed closed, uriWidth, place]
  simpa using left_

/-- What is left behind a reference. -/
theorem leaves_uri {text : List Char} (h : readUri s = some (text, after)) :
    Leaves s (uriWidth s) after := by
  have known : '>' ∈ s := by
    by_contra missing
    rw [readUri_eq_none_iff.mpr missing] at h
    cases h
  have left_ := leaves_closing known
  unfold readUri at h
  unfold afterUri at left_
  split at h
  · cases h
  next behind =>
    cases h
    rwa [behind] at left_

/-- What is left behind the name of a datatype. -/
theorem leaves_datatype (s : List Char) :
    Leaves s
      (if (s.take (wordWidth s)).getLast? = some '.' ∧ endsStatement (s.drop (wordWidth s)) then
        wordWidth s - 1 else wordWidth s) (afterDatatype s) := by
  have word := leaves_dropWhile (fun c => !endsWord c) s
  have taken : s.take (wordWidth s) = s.takeWhile fun c => !endsWord c :=
    (List.prefix_iff_eq_take.mp (List.takeWhile_prefix _)).symm
  have left_ : s.drop (wordWidth s) = s.dropWhile fun c => !endsWord c := word.2
  unfold afterDatatype
  dsimp only
  rw [taken, left_]
  by_cases stop : (s.takeWhile fun c => !endsWord c).getLast? = some '.' ∧
      endsStatement (s.dropWhile fun c => !endsWord c)
  · obtain ⟨name, last⟩ := List.getLast?_eq_some_iff.mp stop.1
    have whole : s = name ++ '.' :: s.dropWhile fun c => !endsWord c := by
      rw [List.append_cons, ← last, List.takeWhile_append_dropWhile]
    have width : wordWidth s - 1 = name.length := by
      rw [wordWidth, last]
      simp
    have behind := leaves_append name ('.' :: s.dropWhile fun c => !endsWord c)
    rw [← whole] at behind
    rw [if_pos stop, width, stop.2, stop.1]
    exact behind
  · have stays : (endsStatement (s.dropWhile fun c => !endsWord c) &&
        decide ((s.takeWhile fun c => !endsWord c).getLast? = some '.')) = false := by
      rw [Bool.and_eq_false_iff]
      by_contra both
      simp only [not_or, Bool.not_eq_false, decide_eq_true_eq] at both
      exact stop ⟨both.2, both.1⟩
    rw [if_neg stop, stays]
    exact word

/-- What is left behind a reference, or nothing if its bracket is not closed. -/
theorem leaves_afterUri (s : List Char) :
    Leaves s (if '>' ∈ s then uriWidth s else s.length) (afterUri s) := by
  by_cases known : '>' ∈ s
  · rw [if_pos known]
    exact leaves_closing known
  · have nothing : afterUri s = [] := by
      rw [afterUri, dropWhile_of_open known]
      rfl
    rw [if_neg known, nothing]
    exact ⟨Nat.le_refl _, List.drop_length⟩

/-- What is left behind a language tag or a datatype. -/
theorem leaves_suffix (s : List Char) : Leaves s (suffixWidth s) (afterSuffix s) := by
  fun_cases suffixWidth s with
  | case1 rest => exact (leaves_dropWhile _ rest).cons '@'
  | case2 rest =>
    have inner := (((leaves_afterUri rest).cons '<').cons '^').cons '^'
    rwa [← Nat.add_assoc, ← Nat.add_assoc] at inner
  | case3 rest other word =>
    have inner := ((leaves_datatype rest).cons '^').cons '^'
    have behind : afterSuffix ('^' :: '^' :: rest) = afterDatatype rest := by
      rw [afterSuffix]
      exact other
    rw [behind]
    rwa [← Nat.add_assoc] at inner
  | case4 s noTag noUri noDatatype =>
    have behind : afterSuffix s = s := by
      rw [afterSuffix]
      · exact noTag
      · exact noUri
      · exact noDatatype
    rw [behind]
    exact ⟨Nat.zero_le _, rfl⟩

/-- A step leaves what its width leaves. -/
theorem leaves_scan (h : scan c rest = .ok (found, after)) :
    Leaves (c :: rest) (stepWidth c rest) after := by
  cases scanned_of_scan h with
  | blank blank =>
    rw [stepWidth, if_pos blank]
    exact leaves_one _ _
  | reference bracket read =>
    rw [bracket, stepWidth, if_neg (by decide)]
    exact (leaves_uri read).cons '<'
  | quoted quote read =>
    obtain ⟨⟨text, behind⟩, closed, same⟩ := Option.map_eq_some_iff.mp read
    cases same
    have inner := leaves_quoted closed
    have whole := inner.trans (leaves_suffix behind)
    rw [quote, stepWidth, if_neg (by decide), inner.2]
    exact whole.cons '"'
  | openBracket sign | closeBracket sign | semicolon sign | comma sign =>
    rw [sign, stepWidth, if_neg (by decide)]
    exact leaves_one _ _
  | stop sign ends =>
    rw [sign, stepWidth, if_neg (by decide), ends]
    exact leaves_one _ _
  | word plain inside goesOn =>
    have other : c ≠ '<' ∧ c ≠ '"' ∧ c ≠ '[' ∧ c ≠ ']' ∧ c ≠ ';' ∧ c ≠ ',' := by
      refine ⟨?_, ?_, ?_, ?_, ?_, ?_⟩ <;>
      · rintro rfl
        exact absurd (inside (by decide)) (by decide)
    have noStop : ¬(c = '.' ∧ endsStatement rest = true) := by simpa using goesOn
    simp only [stepWidth, plain, other, noStop, or_false, if_false, Bool.false_eq_true]
    exact leaves_dropWhile _ (c :: rest)

/-- A step gets further, unless it is at a closing bracket. -/
theorem stepWidth_eq_zero_iff (h : scan c rest = .ok (found, after)) :
    stepWidth c rest = 0 ↔ c = '>' := by
  obtain ⟨fits, left_⟩ := leaves_scan h
  constructor
  · intro none_
    by_contra moves
    have less := length_scan_lt moves h
    rw [none_, List.drop_zero] at left_
    rw [left_] at less
    exact absurd less (Nat.lt_irrefl _)
  · rintro rfl
    cases (scan_closing rest).symm.trans h
    have same := congrArg List.length left_
    rw [List.length_drop] at same
    omega

/-! ## Turns -/

/-- Where the reading of a line stands: the index of what is read next, and the tokens found before. -/
structure Cursor where
  index : Nat
  found : List Lexeme
  deriving DecidableEq, Repr

/-- One turn of the reading of a line. At its end there is nothing to do. -/
def turn (text : List Char) (here : Cursor) : Except Fault Cursor :=
  match text.drop here.index with
  | [] => .ok here
  | c :: rest =>
    match scan c rest with
    | .error fault => .error fault
    | .ok (next, _) => .ok ⟨here.index + stepWidth c rest, here.found ++ next⟩

/-- Where a number of turns lead from the start of a line. -/
def turns (text : List Char) : Nat → Except Fault Cursor
  | 0 => .ok ⟨0, []⟩
  | n + 1 => (turns text n).bind (turn text)

/-- Some turn starts at a closing angle bracket. -/
def MeetsClosing (text : List Char) : Prop :=
  ∃ n here, turns text n = .ok here ∧ text[here.index]? = some '>'

variable {text : List Char} {here next : Cursor} {n : Nat} {fault : Fault}

/-! ## One turn -/

/-- What is behind an index starts with the character at it. -/
theorem drop_eq_cons_iff {i : Nat} {c : Char} :
    (∃ rest, text.drop i = c :: rest) ↔ text[i]? = some c := by
  rw [← List.head?_drop]
  constructor
  · rintro ⟨rest, behind⟩
    rw [behind, List.head?_cons]
  · intro first
    exact List.head?_eq_some_iff.mp first

/-- A turn at the end changes nothing. -/
theorem turn_of_end (h : here.index = text.length) : turn text here = .ok here := by
  rw [turn, List.drop_of_length_le (Nat.le_of_eq h.symm)]

/-- What a step leaves of a line starts at the index that a turn gives. -/
theorem drop_index (behind : text.drop here.index = c :: rest)
    (taken : scan c rest = .ok (found, after)) :
    text.drop (here.index + stepWidth c rest) = after := by
  rw [← List.drop_drop, behind]
  exact (leaves_scan taken).2

/-- The index that a turn gives is where the rest of the line starts, counted from its end. -/
theorem index_add_length (behind : text.drop here.index = c :: rest)
    (taken : scan c rest = .ok (found, after)) :
    here.index + stepWidth c rest + after.length = text.length := by
  have whole := congrArg List.length behind
  have fits := (leaves_scan taken).1
  have left_ := congrArg List.length (leaves_scan taken).2
  rw [List.length_drop] at whole left_
  rw [List.length_cons] at whole fits left_
  omega

/-- What a turn does that does not fail. -/
theorem turn_of_scan (behind : text.drop here.index = c :: rest)
    (taken : scan c rest = .ok (found, after)) :
    turn text here = .ok ⟨here.index + stepWidth c rest, here.found ++ found⟩ := by
  rw [turn, behind]
  simp [taken]

/-- A turn on a line does what a step does at the characters behind the index. -/
theorem turn_cases (inside : here.index < text.length) : ∃ c rest, text.drop here.index = c :: rest ∧
    ((∃ fault, scan c rest = .error fault ∧ turn text here = .error fault) ∨
      ∃ found after, scan c rest = .ok (found, after) ∧
        turn text here = .ok ⟨here.index + stepWidth c rest, here.found ++ found⟩) := by
  have some_ : text.drop here.index ≠ [] := by simpa using inside
  obtain ⟨c, rest, behind⟩ := List.exists_cons_of_ne_nil some_
  refine ⟨c, rest, behind, ?_⟩
  cases taken : scan c rest with
  | error fault => exact Or.inl ⟨fault, rfl, by rw [turn, behind]; simp [taken]⟩
  | ok step => exact Or.inr ⟨step.1, step.2, rfl, turn_of_scan behind taken⟩

/-- A turn at a closing bracket stays there. -/
theorem turn_closing (closing : text[here.index]? = some '>') :
    ∃ found, turn text here = .ok ⟨here.index, here.found ++ found⟩ := by
  obtain ⟨rest, behind⟩ := drop_eq_cons_iff.mpr closing
  have stays := (stepWidth_eq_zero_iff (scan_closing rest)).mpr rfl
  have result := turn_of_scan behind (scan_closing rest)
  rw [stays] at result
  exact ⟨_, result⟩

/-- A turn gets further on the line, unless it starts at a closing bracket, where it stays. -/
theorem turn_index (inside : here.index < text.length) (h : turn text here = .ok next) :
    here.index ≤ next.index ∧ next.index ≤ text.length ∧
      (next.index = here.index ↔ text[here.index]? = some '>') := by
  obtain ⟨c, rest, behind, ⟨fault, -, fails⟩ | ⟨found, after, taken, result⟩⟩ := turn_cases inside
  · cases fails.symm.trans h
  · cases result.symm.trans h
    have place := index_add_length behind taken
    have first : text[here.index]? = some c := drop_eq_cons_iff.mp ⟨rest, behind⟩
    rw [first, Option.some.injEq, ← stepWidth_eq_zero_iff taken]
    dsimp only
    omega

/-! ## Words are not empty -/

/-- No word among some tokens is empty. -/
def NoEmptyWord (found : List Lexeme) : Prop :=
  .word "" ∉ found ∧ .prefixed "" ∉ found

/-- A word of some characters is not empty. -/
theorem noEmptyWord_ofWord {w : List Char} (some_ : w ≠ []) : NoEmptyWord [.ofWord w] := by
  have written : "" ≠ String.ofList w := by simpa using Ne.symm some_
  unfold Lexeme.ofWord
  split
  · split
    · simpa [NoEmptyWord] using written
    · simpa [NoEmptyWord] using written
  · simpa [NoEmptyWord] using written

/-- Tokens are put together. -/
theorem NoEmptyWord.append {found more : List Lexeme} (h : NoEmptyWord found)
    (h' : NoEmptyWord more) : NoEmptyWord (found ++ more) := by
  simp only [NoEmptyWord, List.mem_append, not_or]
  exact ⟨⟨h.1, h'.1⟩, h.2, h'.2⟩

/-- A step that takes something off a line finds no empty word. -/
theorem noEmptyWord_scan (moves : c ≠ '>')
    (h : scan c rest = .ok (found, after)) : NoEmptyWord found := by
  cases scanned_of_scan h with
  | blank | reference | quoted | openBracket | closeBracket | semicolon | comma | stop =>
    simp [NoEmptyWord]
  | word plain inside goesOn =>
    have some_ : (c :: rest).takeWhile (fun c => !endsWord c) ≠ [] := by
      rw [List.takeWhile_cons]
      simp [inside moves]
    unfold wordLexemes
    split
    next ends =>
      simp only [Bool.and_eq_true, decide_eq_true_eq] at ends
      have front : ((c :: rest).takeWhile fun c => !endsWord c).dropLast ≠ [] := by
        intro none_
        have short := congrArg List.length none_
        rw [List.length_dropLast, List.length_nil] at short
        omega
      have stop : NoEmptyWord [.stop] := by simp [NoEmptyWord]
      exact (noEmptyWord_ofWord front).append stop
    · exact noEmptyWord_ofWord some_

/-- The reading of a line finds no empty word, unless it gets stuck. -/
theorem ReadsTo.noEmptyWord (h : ReadsTo text found rest) :
    NoEmptyWord found := by
  induction h with
  | start => simp [NoEmptyWord]
  | step before taken moves ih => exact ih.append (noEmptyWord_scan moves taken)

/-! ## A number of turns -/

/-- One turn more. -/
theorem turns_succ (h : turns text n = .ok here) : turns text (n + 1) = turn text here := by
  rw [turns, h]
  rfl

/-- The last of some turns starts where the others lead to, or has nothing to do there. -/
theorem turns_succ_cases (h : turns text (n + 1) = .ok here) : ∃ last, turns text n = .ok last ∧
    (last.index < text.length ∧ turn text last = .ok here ∨ text.length ≤ last.index ∧ here = last) := by
  cases before : turns text n with
  | error fault =>
    rw [turns, before] at h
    cases h
  | ok last =>
    rw [turns_succ before] at h
    refine ⟨last, rfl, ?_⟩
    rcases Nat.lt_or_ge last.index text.length with inside | end_
    · exact Or.inl ⟨inside, h⟩
    · rw [turn, List.drop_of_length_le end_] at h
      cases h
      exact Or.inr ⟨end_, rfl⟩

/-- The turns of a reading stay on the line. -/
theorem turns_index_le (h : turns text n = .ok here) : here.index ≤ text.length := by
  induction n generalizing here with
  | zero =>
    cases h
    exact Nat.zero_le _
  | succ n ih =>
    obtain ⟨last, before, ⟨inside, step⟩ | ⟨-, rfl⟩⟩ := turns_succ_cases h
    · exact (turn_index inside step).2.1
    · exact ih before

/-- As long as no turn starts at a closing bracket, turns are steps of the reading. -/
theorem readsTo_or_stuck (h : turns text n = .ok here) :
    ReadsTo text here.found (text.drop here.index) ∨ ∃ found rest, ReadsTo text found ('>' :: rest) := by
  induction n generalizing here with
  | zero =>
    cases h
    exact Or.inl .start
  | succ n ih =>
    obtain ⟨last, before, ⟨inside, step⟩ | ⟨-, rfl⟩⟩ := turns_succ_cases h
    · rcases ih before with reads | stuck
      · obtain ⟨c, rest, behind, outcome⟩ := turn_cases inside
        rcases outcome with ⟨fault, -, fails⟩ | ⟨found, after, taken, result⟩
        · cases fails.symm.trans step
        · cases result.symm.trans step
          rw [behind] at reads
          by_cases moves : c = '>'
          · exact Or.inr ⟨_, rest, moves ▸ reads⟩
          · exact Or.inl ((drop_index behind taken).symm ▸ reads.step taken moves)
      · exact Or.inr stuck
    · exact ih before

/-- What the reading of a line gets to, some number of turns leads to. -/
theorem ReadsTo.exists_turns (h : ReadsTo text found rest) :
    ∃ n here, turns text n = .ok here ∧ here.found = found ∧ text.drop here.index = rest := by
  induction h with
  | start => exact ⟨0, _, rfl, rfl, rfl⟩
  | @step found next c rest after before taken moves ih =>
    obtain ⟨n, here, at_, rfl, behind⟩ := ih
    exact ⟨n + 1, _, (turns_succ at_).trans (turn_of_scan behind taken), rfl, drop_index behind taken⟩

/-- Some turn starts at a closing bracket if the reading gets to one. -/
theorem meetsClosing_iff : MeetsClosing text ↔ ∃ found rest, ReadsTo text found ('>' :: rest) := by
  constructor
  · rintro ⟨n, here, at_, closing⟩
    obtain ⟨rest, behind⟩ := drop_eq_cons_iff.mpr closing
    rcases readsTo_or_stuck at_ with reads | stuck
    · exact ⟨here.found, rest, behind ▸ reads⟩
    · exact stuck
  · rintro ⟨found, rest, reads⟩
    obtain ⟨n, here, at_, -, behind⟩ := reads.exists_turns
    exact ⟨n, here, at_, drop_eq_cons_iff.mp ⟨rest, behind⟩⟩

/-! ## Lines on which the reading ends -/

/-- If no turn starts at a closing bracket, turns are steps of the reading. -/
theorem readsTo_turns (free : ¬MeetsClosing text) (h : turns text n = .ok here) :
    ReadsTo text here.found (text.drop here.index) :=
  (readsTo_or_stuck h).resolve_right fun stuck => free (meetsClosing_iff.mpr stuck)

/-- Each turn takes at least one character, up to the end of the line. -/
theorem le_index_or_end (free : ¬MeetsClosing text) (h : turns text n = .ok here) :
    n ≤ here.index ∨ here.index = text.length := by
  induction n generalizing here with
  | zero => exact Or.inl (Nat.zero_le _)
  | succ n ih =>
    obtain ⟨last, before, ⟨inside, step⟩ | ⟨end_, rfl⟩⟩ := turns_succ_cases h
    · obtain ⟨least, -, stays⟩ := turn_index inside step
      have further : here.index ≠ last.index := fun same => free ⟨n, last, before, stays.mp same⟩
      have enough := ih before
      omega
    · exact Or.inr (Nat.le_antisymm (turns_index_le before) end_)

/-- A turn that fails fails with the fault of the line. -/
theorem lexemes_of_turns_error (free : ¬MeetsClosing text) (h : turns text n = .error fault) :
    lexemes text = .error (some fault) := by
  induction n with
  | zero => cases h
  | succ n ih =>
    cases before : turns text n with
    | error earlier =>
      rw [turns, before] at h
      cases h
      exact ih before
    | ok last =>
      rw [turns_succ before] at h
      rcases (turns_index_le before).lt_or_eq with inside | end_
      · obtain ⟨c, rest, behind, outcome⟩ := turn_cases inside
        rcases outcome with ⟨fault', fails, result⟩ | ⟨found, after, -, result⟩
        · cases result.symm.trans h
          exact (behind ▸ readsTo_turns free before).lexemes_error fails
        · cases result.symm.trans h
      · rw [turn_of_end end_] at h
        cases h

/-- If no turn starts at a closing bracket, as many turns as there are characters are enough. -/
theorem turns_end (free : ¬MeetsClosing text) :
    (∃ fault, turns text text.length = .error fault ∧ lexemes text = .error (some fault)) ∨
      ∃ found, turns text text.length = .ok ⟨text.length, found⟩ ∧ lexemes text = .ok found := by
  cases last : turns text text.length with
  | error fault => exact Or.inl ⟨fault, rfl, lexemes_of_turns_error free last⟩
  | ok here =>
    have end_ : here.index = text.length := by
      rcases le_index_or_end free last with enough | end_
      · exact Nat.le_antisymm (turns_index_le last) enough
      · exact end_
    have reads := readsTo_turns free last
    rw [end_, List.drop_length] at reads
    exact Or.inr ⟨here.found, by rw [← end_], reads.lexemes_ok⟩

/-! ## Lines on which it does not -/

/-- Behind the last turn of a reading nothing happens any more. -/
theorem turns_add_of_end (h : turns text n = .ok here) (end_ : here.index = text.length) (k : Nat) :
    turns text (n + k) = .ok here := by
  induction k with
  | zero => exact h
  | succ k ih => rw [← Nat.add_assoc, turns_succ ih, turn_of_end end_]

/-- Behind a turn that fails nothing happens any more. -/
theorem turns_add_of_error (h : turns text n = .error fault) (k : Nat) :
    turns text (n + k) = .error fault := by
  induction k with
  | zero => exact h
  | succ k ih =>
    rw [← Nat.add_assoc, turns, ih]
    rfl

/-- A turn that starts at a closing bracket is followed by such turns only. -/
theorem turns_add_of_closing (h : turns text n = .ok here) (closing : text[here.index]? = some '>')
    (k : Nat) : ∃ found, turns text (n + k) = .ok ⟨here.index, found⟩ := by
  induction k with
  | zero => exact ⟨here.found, h⟩
  | succ k ih =>
    obtain ⟨found, before⟩ := ih
    obtain ⟨more, stays⟩ : ∃ more, turn text ⟨here.index, found⟩ = .ok ⟨here.index, found ++ more⟩ :=
      turn_closing closing
    exact ⟨found ++ more, by rw [← Nat.add_assoc, turns_succ before, stays]⟩

/-- If some turn starts at a closing bracket, the reading comes to no end. -/
theorem turns_endless (h : MeetsClosing text) (n : Nat) :
    ∃ here, turns text n = .ok here ∧ here.index < text.length := by
  obtain ⟨m, stuck, at_, closing⟩ := h
  have inside : stuck.index < text.length := (List.getElem?_eq_some_iff.mp closing).1
  rcases Nat.le_total m n with later | earlier
  · obtain ⟨k, rfl⟩ := Nat.exists_eq_add_of_le later
    obtain ⟨found, same⟩ := turns_add_of_closing at_ closing k
    exact ⟨_, same, inside⟩
  · obtain ⟨k, rfl⟩ := Nat.exists_eq_add_of_le earlier
    cases before : turns text n with
    | error fault => cases (turns_add_of_error before k).symm.trans at_
    | ok here =>
      refine ⟨here, rfl, (turns_index_le before).lt_of_ne fun end_ => ?_⟩
      cases (turns_add_of_end before end_ k).symm.trans at_
      exact absurd end_ inside.ne

/-- Every turn on a line that does not fail gets further and stays on the line, except exactly at a
closing angle bracket, where it does not fail and stays where it is. If no turn starts at one, at most as
many turns as the line has characters lead to its end or to a fault, which is what the reading of the line
comes to, and no word is empty that is found on the way. If one does, no number of turns leads to either,
and the reading has got stuck. -/
theorem turns_advance (text : List Char) :
    (∀ here next : Cursor, here.index < text.length → turn text here = .ok next →
      here.index ≤ next.index ∧ next.index ≤ text.length ∧
        (next.index = here.index ↔ text[here.index]? = some '>')) ∧
    (∀ here : Cursor, text[here.index]? = some '>' →
      ∃ next, turn text here = .ok next ∧ next.index = here.index) ∧
    (¬MeetsClosing text →
      (∃ n ≤ text.length, (∃ fault, turns text n = .error fault ∧ lexemes text = .error (some fault)) ∨
        ∃ found, turns text n = .ok ⟨text.length, found⟩ ∧ lexemes text = .ok found) ∧
      ∀ n here, turns text n = .ok here → .word "" ∉ here.found ∧ .prefixed "" ∉ here.found) ∧
    (MeetsClosing text → lexemes text = .error none ∧
      ∀ n, ∃ here, turns text n = .ok here ∧ here.index < text.length) := by
  refine ⟨fun here next => turn_index, fun here closing => ?_, fun free => ⟨?_, ?_⟩, fun meets => ⟨?_, ?_⟩⟩
  · obtain ⟨found, stays⟩ := turn_closing closing
    exact ⟨_, stays, rfl⟩
  · exact ⟨text.length, Nat.le_refl _, turns_end free⟩
  · exact fun n here at_ => (readsTo_turns free at_).noEmptyWord
  · obtain ⟨found, rest, reads⟩ := meetsClosing_iff.mp meets
    exact reads.lexemes_stuck
  · exact turns_endless meets

/-- A line with a full stop in the name of a datatype, and one with a closing bracket behind a word. -/
theorem turns_advance_typed_and_stuck :
    ¬MeetsClosing "<#a> :n \"4\"^^x.y.".toList ∧
      (∃ n ≤ 17, turns "<#a> :n \"4\"^^x.y.".toList n =
        .ok ⟨17, [.uri "#a", .prefixed ":n", .quoted "4", .stop]⟩) ∧
      MeetsClosing "a> b".toList ∧ lexemes "a> b".toList = .error none := by
  have last : turns "<#a> :n \"4\"^^x.y.".toList 17 =
      .ok ⟨17, [.uri "#a", .prefixed ":n", .quoted "4", .stop]⟩ := by decide
  have stuck : MeetsClosing "a> b".toList := ⟨1, ⟨1, [.word "a"]⟩, by decide, by decide⟩
  obtain ⟨-, -, -, endless⟩ := turns_advance "<#a> :n \"4\"^^x.y.".toList
  obtain ⟨-, -, -, gotStuck⟩ := turns_advance "a> b".toList
  refine ⟨fun meets => ?_, ⟨17, by decide, last⟩, stuck, (gotStuck stuck).1⟩
  obtain ⟨here, at_, inside⟩ := (endless meets).2 17
  cases last.symm.trans at_
  revert inside
  decide

end DocGraph.Block
