import DocGraph.Proofs.Block.Spelling
import Mathlib

/-!
# References that are not closed

An opening angle bracket asks for a closing one on its line. Where a token starts, a bracket without one
is an error. Behind a text in quotes, where it opens a datatype, it is none: the datatype then goes on to
the end of the line, and the tokens that stand there are lost.

How far the reading of a line gets, and what it has found by then, is `ReadsTo`. `lexemes_unclosed` says
what becomes of a line on which some bracket is not closed, wherever this bracket stands.
-/

set_option autoImplicit false

namespace DocGraph.Block

/-! ## How far the reading of a line gets -/

/-- The reading of a line gets to a rest of it, with the tokens that were found on the way. -/
inductive ReadsTo (line : List Char) : List Lexeme → List Char → Prop
  | start : ReadsTo line [] line
  | step {found next : List Lexeme} {c : Char} {rest after : List Char}
      (before : ReadsTo line found (c :: rest)) (taken : scan c rest = .ok (next, after))
      (moves : c ≠ '>') : ReadsTo line (found ++ next) after

variable {line : List Char} {found next : List Lexeme} {c : Char} {rest after : List Char}

/-- What is left of a line decides what becomes of it. -/
theorem ReadsTo.lexemes_eq (h : ReadsTo line found rest) :
    lexemes line = lexemesFrom found.reverse rest := by
  induction h with
  | start => rfl
  | step before taken moves ih => rw [ih, lexemesFrom_cons taken moves, List.reverse_append]

/-- A line that has been read to its end has its tokens. -/
theorem ReadsTo.lexemes_ok (h : ReadsTo line found []) : lexemes line = .ok found := by
  rw [h.lexemes_eq, lexemesFrom, List.reverse_reverse]

/-- A line on which reading comes to a fault has that fault. -/
theorem ReadsTo.lexemes_error {fault : Fault} (h : ReadsTo line found (c :: rest))
    (fails : scan c rest = .error fault) : lexemes line = .error (some fault) := by
  rw [h.lexemes_eq, lexemesFrom]
  split
  next fault' fails' =>
    cases fails.symm.trans fails'
    rfl
  next next after taken => cases fails.symm.trans taken

/-- At a closing angle bracket an empty word is found, and nothing is taken off the line. -/
theorem scan_closing (rest : List Char) : scan '>' rest = .ok ([.ofWord []], '>' :: rest) := by
  have blank : Text.isBlank '>' = false := by decide
  have ends : endsWord '>' = true := by decide
  simp [scan, blank, ends, wordLexemes]

/-- The reading of a line gets stuck at a closing angle bracket. -/
theorem ReadsTo.lexemes_stuck (h : ReadsTo line found ('>' :: rest)) : lexemes line = .error none := by
  rw [h.lexemes_eq, lexemesFrom]
  split
  next fault fails => cases (scan_closing rest).symm.trans fails
  · rfl

/-- The reading of a line gets to its end, to a fault, or to where it gets stuck. -/
theorem ReadsTo.ends (h : ReadsTo line found rest) :
    (∃ all, ReadsTo line all []) ∨
      (∃ all c left fault, ReadsTo line all (c :: left) ∧ scan c left = .error fault) ∨
      ∃ all left, ReadsTo line all ('>' :: left) := by
  induction length : rest.length using Nat.strongRecOn generalizing found rest with
  | _ n ih =>
    cases rest with
    | nil => exact Or.inl ⟨found, h⟩
    | cons c rest =>
      by_cases stuck : c = '>'
      · exact Or.inr (Or.inr ⟨found, rest, stuck ▸ h⟩)
      · cases read : scan c rest with
        | error fault => exact Or.inr (Or.inl ⟨found, c, rest, fault, h, read⟩)
        | ok taken => exact ih _ (length ▸ length_scan_lt stuck read) (h.step read stuck) rfl

/-! ## What one step takes -/

/-- Nothing is left of a text without a closing bracket. -/
theorem dropWhile_of_open {s : List Char} (h : '>' ∉ s) : s.dropWhile (· != '>') = [] := by
  have inside : ∀ c ∈ s, (c != '>') = true := by
    intro c known
    simp only [bne_iff_ne]
    rintro rfl
    exact h known
  exact List.dropWhile_eq_nil_iff.mpr inside

/-- A reference is read if and only if it is closed. -/
theorem readUri_eq_none_iff {s : List Char} : readUri s = none ↔ '>' ∉ s := by
  constructor
  · intro none_ known
    obtain ⟨text, behind, rfl, closed⟩ := List.eq_append_cons_of_mem known
    rw [readUri_closed closed] at none_
    cases none_
  · intro open_
    rw [readUri, dropWhile_of_open open_]

/-- A step fails at a bracket that is not closed and at a quote that is not. -/
theorem scan_eq_error_iff {fault : Fault} : scan c rest = .error fault ↔
    c = '<' ∧ '>' ∉ rest ∧ fault = .unterminatedUri ∨
      c = '"' ∧ readQuoted rest = none ∧ fault = .unterminatedString := by
  constructor
  · intro h
    unfold scan at h
    split at h
    · cases h
    split at h
    next bracket =>
      split at h
      · cases h
      next open_ =>
        cases h
        exact Or.inl ⟨bracket, readUri_eq_none_iff.mp open_, rfl⟩
    split at h
    next quote =>
      split at h
      · cases h
      next open_ =>
        cases h
        exact Or.inr ⟨quote, open_, rfl⟩
    iterate 5
      split at h
      · cases h
    cases h
  · rintro (⟨rfl, open_, rfl⟩ | ⟨rfl, open_, rfl⟩)
    · have blank : Text.isBlank '<' = false := by decide
      simp [scan, blank, readUri_eq_none_iff.mpr open_]
    · have blank : Text.isBlank '"' = false := by decide
      simp [scan, blank, open_]

/-- What is read between quotes. -/
theorem exists_body_of_readQuotedFrom {value s text behind : List Char}
    (h : readQuotedFrom value s = some (text, behind)) :
    ∃ body more, s = body ++ '"' :: behind ∧ QuotedBody body more ∧ text = value.reverse ++ more := by
  fun_induction readQuotedFrom value s with
  | case1 => cases h
  | case2 value c rest ih =>
    obtain ⟨body, more, rfl, reads, rfl⟩ := ih h
    exact ⟨_, _, rfl, .escaped c reads, by simp⟩
  | case3 value rest =>
    cases h
    exact ⟨[], [], rfl, .nil, by simp⟩
  | case4 value c rest escape quote ih =>
    obtain ⟨body, more, rfl, reads, rfl⟩ := ih h
    refine ⟨c :: body, c :: more, rfl, .plain quote ?_ reads, by simp⟩
    -- A backslash would have something behind it, since a quote follows.
    rintro rfl
    cases body with
    | nil => exact escape '"' behind rfl rfl
    | cons d body => exact escape d _ rfl rfl

/-- What stands right behind a text in quotes and is dropped, and what is left then: no opening bracket,
a datatype in brackets, or a bracket that is not closed, with all that stands behind it. -/
inductive Dropped : List Char → List Char → Prop
  | plain {suffix after : List Char} (closed : '<' ∉ suffix) : Dropped suffix after
  | reference (text after : List Char) : Dropped ('^' :: '^' :: '<' :: (text ++ ['>'])) after
  | unclosed {text : List Char} (open_ : '>' ∉ text) : Dropped ('^' :: '^' :: '<' :: text) []

/-- A word ends in front of an opening bracket. -/
theorem bracket_not_mem_word (s : List Char) : '<' ∉ s.takeWhile fun c => !endsWord c := by
  intro known
  have inside := List.mem_takeWhile_imp known
  revert inside
  decide

/-- What names a datatype, as far as it is dropped. -/
theorem exists_dropped_datatype (s : List Char) :
    ∃ word, s = word ++ afterDatatype s ∧ '<' ∉ word := by
  have whole := List.takeWhile_append_dropWhile (p := fun c => !endsWord c) (l := s)
  have outside := bracket_not_mem_word s
  unfold afterDatatype
  dsimp only
  split
  next ends =>
    simp only [Bool.and_eq_true, decide_eq_true_eq] at ends
    obtain ⟨word, last⟩ := List.getLast?_eq_some_iff.mp ends.2
    rw [last] at whole outside
    refine ⟨word, ?_, fun known => outside (List.mem_append_left _ known)⟩
    rw [List.append_cons, whole]
  · exact ⟨_, whole.symm, outside⟩

/-- What stands behind a text in quotes is dropped up to what is left. -/
theorem exists_dropped (s : List Char) :
    ∃ suffix, s = suffix ++ afterSuffix s ∧ Dropped suffix (afterSuffix s) := by
  unfold afterSuffix
  split
  next rest =>
    have letter : ¬(Text.isAlphanumeric '<' || decide ('<' = '-')) = true := by decide +kernel
    have outside : '<' ∉ rest.takeWhile fun c => Text.isAlphanumeric c || decide (c = '-') := by
      intro known
      have inside := List.mem_takeWhile_imp known
      exact letter inside
    have whole := List.takeWhile_append_dropWhile
      (p := fun c => Text.isAlphanumeric c || decide (c = '-')) (l := rest)
    refine ⟨'@' :: rest.takeWhile fun c => Text.isAlphanumeric c || c = '-', ?_, .plain ?_⟩
    · rw [List.cons_append, whole]
    · simpa using outside
  next rest =>
    by_cases known : '>' ∈ rest
    · obtain ⟨text, behind, rfl, closed⟩ := List.eq_append_cons_of_mem known
      rw [afterUri_closed closed]
      exact ⟨_, by simp, .reference text behind⟩
    · rw [afterUri, dropWhile_of_open known]
      exact ⟨_, (List.append_nil _).symm, .unclosed known⟩
  next rest _ =>
    obtain ⟨word, whole, outside⟩ := exists_dropped_datatype rest
    refine ⟨'^' :: '^' :: word, ?_, .plain ?_⟩
    · rw [List.cons_append, List.cons_append, ← whole]
    · simpa using outside
  · exact ⟨[], rfl, .plain List.not_mem_nil⟩

/-- What a step takes off a line, with the tokens that it finds and what is left: something without an
opening bracket, a reference, or a text in quotes with what stands behind it. -/
inductive Taken : List Char → List Lexeme → List Char → Prop
  | plain {taken : List Char} (next : List Lexeme) (after : List Char) (closed : '<' ∉ taken) :
      Taken taken next after
  | reference (text : List Char) (next : List Lexeme) (after : List Char) :
      Taken ('<' :: (text ++ ['>'])) next after
  | quoted {body value suffix after : List Char} (reads : QuotedBody body value)
      (dropped : Dropped suffix after) :
      Taken ('"' :: (body ++ '"' :: suffix)) [.quoted (String.ofList value)] after

/-- Reading a text in quotes takes the token and what is attached to it. -/
theorem exists_taken_quoted {value : List Char} (h : readQuoted rest = some (value, after)) :
    ∃ taken, '"' :: rest = taken ++ after ∧ Taken taken [.quoted (String.ofList value)] after := by
  obtain ⟨⟨text, behind⟩, read, same⟩ := Option.map_eq_some_iff.mp h
  cases same
  obtain ⟨body, more, rfl, reads, rfl⟩ := exists_body_of_readQuotedFrom read
  obtain ⟨suffix, whole, dropped⟩ := exists_dropped behind
  refine ⟨_, ?_, .quoted reads dropped⟩
  simp [← whole]

/-- A turn that succeeds takes a piece of the line. -/
theorem exists_taken (h : scan c rest = .ok (next, after)) :
    ∃ taken, c :: rest = taken ++ after ∧ Taken taken next after := by
  have sign : c ≠ '<' → ∃ taken, c :: rest = taken ++ rest ∧ Taken taken next rest :=
    fun other => ⟨[c], rfl, .plain _ _ (by simpa using other.symm)⟩
  cases scanned_of_scan h with
  | blank blank =>
    refine sign ?_
    rintro rfl
    revert blank
    decide
  | @reference text _ bracket read =>
    by_cases known : '>' ∈ rest
    · obtain ⟨text', behind, rfl, closed⟩ := List.eq_append_cons_of_mem known
      rw [readUri_closed closed] at read
      cases read
      exact ⟨'<' :: (text ++ ['>']), by simp [bracket], .reference text _ after⟩
    · rw [readUri_eq_none_iff.mpr known] at read
      cases read
  | quoted quote read => exact quote ▸ exists_taken_quoted read
  | openBracket same | closeBracket same | semicolon same | comma same | stop same =>
    exact sign (by rw [same]; decide)
  | word =>
    exact ⟨_, List.takeWhile_append_dropWhile.symm, .plain _ _ (bracket_not_mem_word (c :: rest))⟩

/-! ## Brackets that are not closed -/

/-- What an opening bracket stands in front of is behind what was taken, or it stands in what was
taken. -/
theorem exists_behind_or_inside {taken before : List Char}
    (h : taken ++ after = before ++ '<' :: rest) :
    (∃ passed, after = passed ++ '<' :: rest) ∨
      ∃ inner, taken = before ++ '<' :: inner ∧ rest = inner ++ after := by
  rcases List.append_eq_append_iff.mp h with ⟨passed, -, whole⟩ | ⟨inside, whole, same⟩
  · exact Or.inl ⟨passed, whole⟩
  · cases inside with
    | nil => exact Or.inl ⟨[], same.symm⟩
    | cons d inner =>
      obtain ⟨rfl, rfl⟩ := List.cons.inj same
      exact Or.inr ⟨inner, whole, rfl⟩

/-- A bracket before the end of what ends with a closing one is closed. -/
theorem mem_of_closed (front : List Char) {before inner : List Char}
    (h : front ++ ['>'] = before ++ '<' :: inner) : '>' ∈ inner := by
  have last := congrArg List.getLast? h
  rw [List.getLast?_concat, List.getLast?_append, List.getLast?_cons] at last
  cases back : inner.getLast? with
  | none => simp [back] at last
  | some d =>
    obtain rfl : '>' = d := by simpa [back] using last
    exact List.mem_of_getLast? back

/-- A bracket opens the datatype of a text in quotes, in front of a rest of the line. -/
def OpensDatatype (line : List Char) (found : List Lexeme) (value rest : List Char) : Prop :=
  ∃ body, QuotedBody body value ∧
    ReadsTo line found ('"' :: (body ++ '"' :: '^' :: '^' :: '<' :: rest))

/-- A bracket stands between quotes, in front of a rest of the line. -/
def BetweenQuotes (line rest : List Char) : Prop :=
  ∃ found left right value behind, QuotedBody (left ++ '<' :: right) value ∧
    ReadsTo line found ('"' :: (left ++ '<' :: (right ++ '"' :: behind))) ∧ rest = right ++ '"' :: behind

/-- A bracket that is not closed in a text in quotes with what is dropped behind it stands between the
quotes, or behind the bracket of a datatype that is not closed. -/
theorem unclosed_in_quoted {body value suffix before inner : List Char}
    (h : ReadsTo line found ('"' :: (body ++ '"' :: (suffix ++ after)))) (reads : QuotedBody body value)
    (dropped : Dropped suffix after) (here : '"' :: (body ++ '"' :: suffix) = before ++ '<' :: inner)
    (open_ : '>' ∉ inner) :
    BetweenQuotes line (inner ++ after) ∨
      ∃ r, OpensDatatype line found value r ∧ '>' ∉ r ∧ '<' :: (inner ++ after) <:+ '<' :: r := by
  cases before with
  | nil => simp at here
  | cons d before =>
    have behindQuote := List.tail_eq_of_cons_eq here
    rcases exists_behind_or_inside behindQuote with ⟨passed, later⟩ | ⟨right, rfl, rfl⟩
    · cases passed with
      | nil => simp at later
      | cons e passed =>
        have behind := List.tail_eq_of_cons_eq later
        cases dropped with
        | plain closed => simp [behind] at closed
        | reference text after =>
          exact absurd (mem_of_closed ('^' :: '^' :: '<' :: text) behind) open_
        | @unclosed text open_' =>
          refine Or.inr ⟨text, ⟨body, reads, by simpa using h⟩, open_', ?_⟩
          -- The two marks in front of the bracket are none themselves.
          match passed, behind with
          | [], same => simp at same
          | [_], same => simp at same
          | _ :: _ :: passed, same =>
            rw [List.append_nil]
            exact ⟨passed, (List.tail_eq_of_cons_eq (List.tail_eq_of_cons_eq same)).symm⟩
    · refine Or.inl ⟨found, before, right, value, suffix ++ after, reads, ?_, by simp⟩
      simpa using h

/-- If a line is read to its end, a bracket that is not closed stands between quotes or belongs to what
a datatype that is not closed takes with it. -/
theorem ReadsTo.unclosed {left before rest : List Char} (h : ReadsTo line found left)
    (split_ : left = before ++ '<' :: rest) (open_ : '>' ∉ rest) {all : List Lexeme}
    (whole : lexemes line = .ok all) :
    BetweenQuotes line rest ∨ ∃ found value r, OpensDatatype line found value r ∧ '>' ∉ r ∧
      '<' :: rest <:+ '<' :: r := by
  induction length : left.length using Nat.strongRecOn generalizing found left before with
  | _ n ih =>
    cases left with
    | nil => simp at split_
    | cons c left =>
      by_cases stuck : c = '>'
      · subst stuck
        cases h.lexemes_stuck.symm.trans whole
      cases read : scan c left with
      | error fault => cases (h.lexemes_error read).symm.trans whole
      | ok pair =>
        obtain ⟨next, after⟩ := pair
        obtain ⟨taken, cut, kind⟩ := exists_taken read
        rcases exists_behind_or_inside (cut.symm.trans split_) with ⟨passed, later⟩ | ⟨inner, here, rfl⟩
        · exact ih _ (length ▸ length_scan_lt stuck read) (h.step read stuck) later rfl
        · have inside : '>' ∉ inner := fun known => open_ (List.mem_append_left _ known)
          cases kind with
          | plain next after closed => simp [here] at closed
          | reference text next after => exact absurd (mem_of_closed ('<' :: text) here) inside
          | @quoted body value suffix after reads dropped =>
            rw [cut] at h
            have spelled : ReadsTo line found ('"' :: (body ++ '"' :: (suffix ++ after))) := by
              simpa using h
            rcases unclosed_in_quoted spelled reads dropped here inside with between | ⟨r, opens⟩
            · exact Or.inl between
            · exact Or.inr ⟨found, value, r, opens⟩

/-- A datatype that is not closed is dropped with all that stands behind it. -/
theorem OpensDatatype.lexemes_eq {value : List Char} (h : OpensDatatype line found value rest)
    (open_ : '>' ∉ rest) : lexemes line = .ok (found ++ [.quoted (String.ofList value)]) := by
  obtain ⟨body, reads, gets⟩ := h
  have blank : Text.isBlank '"' = false := by decide
  have taken : scan '"' (body ++ '"' :: '^' :: '^' :: '<' :: rest) =
      .ok ([.quoted (String.ofList value)], []) := by
    simp [scan, blank, readQuoted, readQuotedFrom_body reads, afterSuffix, afterUri,
      dropWhile_of_open open_]
  exact (gets.step taken (by decide)).lexemes_ok

/-- What becomes of a line on which an opening bracket is not closed. Where the reading of the line gets
to the bracket as the start of a token, that is an error. Where the bracket opens a datatype, it is none,
and the text in quotes is the last token that is found on the line. A bracket anywhere else is between
quotes or behind such a datatype, or there is an error, or the reading gets stuck. -/
theorem lexemes_unclosed {before rest : List Char} (split_ : line = before ++ '<' :: rest)
    (open_ : '>' ∉ rest) :
    (∀ found, ReadsTo line found ('<' :: rest) → lexemes line = .error (some .unterminatedUri)) ∧
    (∀ found value, OpensDatatype line found value rest →
      lexemes line = .ok (found ++ [.quoted (String.ofList value)])) ∧
    (BetweenQuotes line rest ∨
      (∃ found value r, OpensDatatype line found value r ∧ '>' ∉ r ∧ '<' :: rest <:+ '<' :: r ∧
        lexemes line = .ok (found ++ [.quoted (String.ofList value)])) ∨
      (∃ fault ∈ [Fault.unterminatedUri, .unterminatedString], lexemes line = .error (some fault)) ∨
      ∃ found r, ReadsTo line found ('>' :: r) ∧ lexemes line = .error none) := by
  refine ⟨fun found gets => ?_, fun found value opens => opens.lexemes_eq open_, ?_⟩
  · exact gets.lexemes_error (scan_eq_error_iff.mpr (Or.inl ⟨rfl, open_, rfl⟩))
  · have first : ReadsTo line [] line := .start
    rcases first.ends with ⟨all, ended⟩ | ⟨all, c, left, fault, gets, fails⟩ | ⟨all, left, stuck⟩
    · rcases first.unclosed split_ open_ ended.lexemes_ok with between | ⟨found, value, r, opens, open', part⟩
      · exact Or.inl between
      · exact Or.inr (Or.inl ⟨found, value, r, opens, open', part, opens.lexemes_eq open'⟩)
    · refine Or.inr (Or.inr (Or.inl ⟨fault, ?_, gets.lexemes_error fails⟩))
      rcases scan_eq_error_iff.mp fails with ⟨-, -, rfl⟩ | ⟨-, -, rfl⟩
      · exact List.mem_cons_self
      · simp
    · exact Or.inr (Or.inr (Or.inr ⟨all, left, stuck, stuck.lexemes_stuck⟩))

/-- A line with the bracket of a datatype that is not closed, and another property behind it. -/
def typedLine : List Char :=
  "<#a> code:label \"x\"^^<int ; code:name \"y\" .".toList

/-- The bracket of the line opens a datatype. -/
theorem typedLine_opens : OpensDatatype typedLine [.uri "#a", .prefixed "code:label"] ['x']
    "int ; code:name \"y\" .".toList := by
  have uri : scan '<' "#a> code:label \"x\"^^<int ; code:name \"y\" .".toList =
      .ok ([.uri "#a"], " code:label \"x\"^^<int ; code:name \"y\" .".toList) := by cbv
  have first : scan ' ' "code:label \"x\"^^<int ; code:name \"y\" .".toList =
      .ok ([], "code:label \"x\"^^<int ; code:name \"y\" .".toList) := by cbv
  have word : scan 'c' "ode:label \"x\"^^<int ; code:name \"y\" .".toList =
      .ok ([.prefixed "code:label"], " \"x\"^^<int ; code:name \"y\" .".toList) := by cbv
  have second : scan ' ' "\"x\"^^<int ; code:name \"y\" .".toList =
      .ok ([], "\"x\"^^<int ; code:name \"y\" .".toList) := by cbv
  refine ⟨['x'], .plain (by decide) (by decide) .nil, ?_⟩
  exact (((ReadsTo.start.step uri (by decide)).step first (by decide)).step word (by decide)).step
    second (by decide)

/-- The line is read without an error, up to the datatype. -/
theorem lexemes_unclosed_in_typedLine :
    typedLine = "<#a> code:label \"x\"^^".toList ++ '<' :: "int ; code:name \"y\" .".toList ∧
    '>' ∉ "int ; code:name \"y\" .".toList ∧
    OpensDatatype typedLine [.uri "#a", .prefixed "code:label"] ['x']
      "int ; code:name \"y\" .".toList ∧
    lexemes typedLine = .ok [.uri "#a", .prefixed "code:label", .quoted "x"] := by
  have split_ : typedLine =
      "<#a> code:label \"x\"^^".toList ++ '<' :: "int ; code:name \"y\" .".toList := by decide
  have open_ : '>' ∉ "int ; code:name \"y\" .".toList := by decide
  exact ⟨split_, open_, typedLine_opens, (lexemes_unclosed split_ open_).2.1 _ _ typedLine_opens⟩

/-- The line gives one triple, and the name on it is lost. -/
theorem parse_typedLine : parse (String.ofList typedLine) 1 =
    .ok [.mk "#a" "https://schema.codedoc.org/label" (.literal "x")] := by
  have alone : Text.lines (String.ofList typedLine).toList = [typedLine] := by
    rw [String.toList_ofList]
    decide
  have bare : Text.trim typedLine = typedLine := by decide
  have plain : (typedLine.isEmpty || decide (typedLine.head? = some '#')) = false := by decide
  have noPrefix : prefixWord.toList.isPrefixOf typedLine = false := by decide
  have found := typedLine_opens.lexemes_eq (by decide)
  have taken : Lexed.empty.addLines 1 [typedLine] =
      .ok ⟨.standard, [⟨.quoted "x", 1⟩, ⟨.prefixed "code:label", 1⟩, ⟨.uri "#a", 1⟩]⟩ := by
    rw [Lexed.addLines, bare, Lexed.addLine, plain, noPrefix, found]
    rfl
  rw [parse, alone, taken]
  cbv

/-- In a block with this line alone, the bracket is no error, and the property behind it is lost. -/
theorem typedLine_swallowed :
    '>' ∉ "int ; code:name \"y\" .".toList ∧
    OpensDatatype typedLine [.uri "#a", .prefixed "code:label"] ['x']
      "int ; code:name \"y\" .".toList ∧
    (∀ fault, lexemes typedLine ≠ .error fault) ∧
    parse (String.ofList typedLine) 1 =
      .ok [.mk "#a" "https://schema.codedoc.org/label" (.literal "x")] := by
  refine ⟨by decide, typedLine_opens, fun fault failed => ?_, parse_typedLine⟩
  cases failed.symm.trans (typedLine_opens.lexemes_eq (by decide))

end DocGraph.Block
