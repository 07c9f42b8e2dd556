import DocGraph.Block.Parse
import DocGraph.Proofs.Text.Blank

/-!
# How tokens are written

`Spelled` says how a token is written: a reference in angle brackets, a text in quotes with a language
or a datatype behind it, a sign, or a word. Tokens that are written like this and stand apart on a
line, with blanks or tabs between them, are the tokens of the line, however wide the gaps are.
`addLine_of_spread` says so of a line as it is taken in, without the blanks at its ends.
-/

set_option autoImplicit false

namespace DocGraph.Block

open Text (Unbroken)

/-! ## How a token is written -/

/-- Whether a word may go on with a character. -/
def continuesWord (c : Char) : Bool :=
  !Text.isBlank c && !endsWord c

/-- What stands between quotes, and the text that it gives. -/
inductive QuotedBody : List Char → List Char → Prop
  | nil : QuotedBody [] []
  | plain {c : Char} {body value : List Char} (quote : c ≠ '"') (escape : c ≠ '\\')
      (rest : QuotedBody body value) : QuotedBody (c :: body) (c :: value)
  | escaped (c : Char) {body value : List Char} (rest : QuotedBody body value) :
      QuotedBody ('\\' :: c :: body) (unescape c :: value)

/-- What may stand right behind a quoted text: nothing, a language, or a datatype. -/
inductive Suffix : List Char → Prop
  | none : Suffix []
  | language {tag : List Char}
      (letters : ∀ c ∈ tag, (Text.isAlphanumeric c || c = '-') = true) : Suffix ('@' :: tag)
  | reference {text : List Char} (closed : '>' ∉ text) :
      Suffix ('^' :: '^' :: '<' :: (text ++ ['>']))
  | datatype {word : List Char} (inside : ∀ c ∈ word, continuesWord c = true)
      (last : word.getLast? ≠ some '.') : Suffix ('^' :: '^' :: word)

/-- How a token is written. -/
inductive Spelled : List Char → Lexeme → Prop
  | uri {text : List Char} (closed : '>' ∉ text) (unbroken : Unbroken text) :
      Spelled ('<' :: (text ++ ['>'])) (.uri (String.ofList text))
  | quoted {body value suffix : List Char} (reads : QuotedBody body value) (ends : Suffix suffix)
      (unbroken : Unbroken (body ++ suffix)) :
      Spelled ('"' :: (body ++ '"' :: suffix)) (.quoted (String.ofList value))
  | openBracket : Spelled ['['] .openBracket
  | closeBracket : Spelled [']'] .closeBracket
  | semicolon : Spelled [';'] .semicolon
  | comma : Spelled [','] .comma
  | stop : Spelled ['.'] .stop
  | word {w : List Char} (nonempty : w ≠ []) (inside : ∀ c ∈ w, continuesWord c = true)
      (last : w.getLast? ≠ some '.') (comment : w.head? ≠ some '#')
      (declares : ¬prefixWord.toList <+: w) : Spelled w (.ofWord w)

/-- A token and how it is written. -/
structure Spelling where
  text : List Char
  lexeme : Lexeme
  spelled : Spelled text lexeme

/-- Whether a character keeps tokens apart on a line. -/
def separates (c : Char) : Bool :=
  c = ' ' || c = '\t'

/-- A gap is made of blanks and tabs. -/
def IsGap (s : List Char) : Prop :=
  ∀ c ∈ s, separates c = true

instance (s : List Char) : Decidable (IsGap s) :=
  List.decidableBAll _ s

/-- The text is at its end or goes on with a gap. -/
def Apart (s : List Char) : Prop :=
  ∀ c ∈ s.head?, separates c = true

instance : (s : List Char) → Decidable (Apart s)
  | [] => isTrue (by simp [Apart])
  | c :: _ => decidable_of_iff (separates c = true) (by simp [Apart])

/-- What may be attached to a text in quotes: nothing, a language, or a datatype. The name of a
datatype goes on until a word ends, past blanks that end no word. -/
inductive Attached : List Char → Prop
  | nothing : Attached []
  | language {tag : List Char}
      (letters : ∀ c ∈ tag, (Text.isAlphanumeric c || c = '-') = true) : Attached ('@' :: tag)
  | reference {text : List Char} (closed : '>' ∉ text) :
      Attached ('^' :: '^' :: '<' :: (text ++ ['>']))
  | datatype {word : List Char} (inside : ∀ c ∈ word, endsWord c = false)
      (last : word.getLast? ≠ some '.') : Attached ('^' :: '^' :: word)

/-- The text is at its end, or goes on with a gap, with a sign that ends an object, or with a full
stop that ends a statement. -/
inductive Delimited : List Char → Prop
  | nothing : Delimited []
  | sign {c : Char} (s : List Char) (delimits : c ∈ [' ', '\t', ';', ',', ']']) : Delimited (c :: s)
  | stop {s : List Char} (apart : Apart s) : Delimited ('.' :: s)

/-- Tokens that stand apart on a line. -/
inductive Spread : List Spelling → List Char → Prop
  | gap {gap : List Char} (blank : IsGap gap) : Spread [] gap
  | token (gap : List Char) (t : Spelling) {rest : List Spelling} {s : List Char}
      (blank : IsGap gap) (others : Spread rest s) (apart : Apart s) :
      Spread (t :: rest) (gap ++ (t.text ++ s))

/-! ## Characters -/

/-- What keeps tokens apart is blank. -/
theorem isBlank_of_separates {c : Char} (h : separates c = true) : Text.isBlank c = true := by
  simp only [separates, Bool.or_eq_true, decide_eq_true_eq] at h
  rcases h with rfl | rfl <;> decide

/-- What keeps tokens apart breaks no line. -/
theorem not_isLineBreak_of_separates {c : Char} (h : separates c = true) :
    Text.isLineBreak c = false := by
  simp only [separates, Bool.or_eq_true, decide_eq_true_eq] at h
  rcases h with rfl | rfl <;> decide

/-- A word goes on with what is not blank and does not end it. -/
theorem continuesWord_iff {c : Char} :
    continuesWord c = true ↔ Text.isBlank c = false ∧ endsWord c = false := by
  simp [continuesWord]

/-- A gap ends whatever cannot go on with a blank or a tab. -/
theorem Apart.takeWhile {s : List Char} (h : Apart s) {p : Char → Bool} (space : p ' ' = false)
    (tab : p '\t' = false) : s.takeWhile p = [] ∧ s.dropWhile p = s := by
  cases s with
  | nil => exact ⟨rfl, rfl⟩
  | cons c s =>
    have sep : separates c = true := h c rfl
    have stops : p c = false := by
      simp only [separates, Bool.or_eq_true, decide_eq_true_eq] at sep
      rcases sep with rfl | rfl
      · exact space
      · exact tab
    simp [stops]

/-- In front of a gap a full stop ends a statement. -/
theorem Apart.endsStatement {s : List Char} (h : Apart s) : endsStatement s = true := by
  cases s with
  | nil => rfl
  | cons c s => exact isBlank_of_separates (h c rfl)

/-- What is cut off before a gap. -/
theorem Apart.cut {s : List Char} (h : Apart s) {p : Char → Bool} (space : p ' ' = false)
    (tab : p '\t' = false) {a : List Char} (inside : ∀ c ∈ a, p c = true) :
    (a ++ s).takeWhile p = a ∧ (a ++ s).dropWhile p = s := by
  obtain ⟨none_, all⟩ := h.takeWhile space tab
  rw [List.takeWhile_append_of_pos inside, List.dropWhile_append_of_pos inside, none_, all]
  exact ⟨List.append_nil a, rfl⟩

/-! ## Reading a token -/

/-- A text between quotes is read up to its closing quote. -/
theorem readQuotedFrom_body {body value : List Char} (h : QuotedBody body value)
    (read rest : List Char) :
    readQuotedFrom read (body ++ '"' :: rest) = some (read.reverse ++ value, rest) := by
  induction h generalizing read with
  | nil => simp [readQuotedFrom]
  | @plain c body value quote escape inner ih =>
    rw [List.cons_append, readQuotedFrom, ih]
    · simp
    · intro d s same
      exact fun _ => escape same
    · exact quote
  | @escaped c body value inner ih =>
    rw [List.cons_append, List.cons_append, readQuotedFrom, ih]
    simp

/-- A text without a closing bracket is what stands in front of the first one. -/
theorem cut_uri {text : List Char} (h : '>' ∉ text) (s : List Char) :
    (text ++ '>' :: s).takeWhile (· != '>') = text ∧
      (text ++ '>' :: s).dropWhile (· != '>') = '>' :: s := by
  have inside : ∀ c ∈ text, (c != '>') = true := by
    intro c known
    simp only [bne_iff_ne]
    rintro rfl
    exact h known
  rw [List.takeWhile_append_of_pos inside, List.dropWhile_append_of_pos inside]
  simp

/-- A reference that is closed is read up to its closing bracket. -/
theorem readUri_closed {text : List Char} (h : '>' ∉ text) (s : List Char) :
    readUri (text ++ '>' :: s) = some (text, s) := by
  obtain ⟨taken, left⟩ := cut_uri h s
  rw [readUri, left, taken]

/-- Behind a reference that is closed the text goes on. -/
theorem afterUri_closed {text : List Char} (h : '>' ∉ text) (s : List Char) :
    afterUri (text ++ '>' :: s) = s := by
  rw [afterUri, (cut_uri h s).2, List.tail_cons]

/-- How a text starts that is delimited. -/
theorem Delimited.head {rest : List Char} (h : Delimited rest) :
    ∀ c ∈ rest.head?, c ∈ [' ', '\t', ';', ',', ']', '.'] := by
  cases h with
  | nothing => simp
  | sign s delimits => simpa using List.mem_append_left ['.'] delimits
  | stop apart => simp

/-- What none of the characters fits that a delimited text starts with drops nothing of it. -/
theorem Delimited.dropWhile {rest : List Char} (h : Delimited rest) {p : Char → Bool}
    (stops : ∀ c ∈ [' ', '\t', ';', ',', ']', '.'], p c = false) : rest.dropWhile p = rest := by
  cases rest with
  | nil => rfl
  | cons c s => simp [stops c (h.head c rfl)]

/-- The name of a datatype is dropped up to a full stop that ends the statement, which is not
dropped. -/
theorem afterDatatype_append {word rest : List Char} (inside : ∀ c ∈ word, endsWord c = false)
    (last : word.getLast? ≠ some '.') (h : Delimited rest) : afterDatatype (word ++ rest) = rest := by
  have goesOn : ∀ c ∈ word, (!endsWord c) = true := by
    intro c known
    simp [inside c known]
  rw [afterDatatype, List.takeWhile_append_of_pos goesOn, List.dropWhile_append_of_pos goesOn]
  cases h with
  | nothing => simp [last]
  | @sign c s delimits =>
    have ends : endsWord c = true := by
      simp only [List.mem_cons, List.not_mem_nil, or_false] at delimits
      rcases delimits with rfl | rfl | rfl | rfl | rfl <;> decide
    simp [ends, last]
  | @stop s apart =>
    -- The full stop ends no word, so it is read as one more character of the name and put back.
    have stop : endsWord '.' = false := by decide
    obtain ⟨none_, all⟩ := apart.takeWhile (p := fun c => !endsWord c) (by decide) (by decide)
    simp [stop, none_, all, apart.endsStatement]

/-- What is attached to a text in quotes is dropped, and nothing behind it. -/
theorem Attached.afterSuffix_append {attached rest : List Char} (h : Attached attached)
    (delimited : Delimited rest) : afterSuffix (attached ++ rest) = rest := by
  cases h with
  | nothing =>
    cases rest with
    | nil => rfl
    | cons c s =>
      have start := delimited.head c rfl
      simp only [List.mem_cons, List.not_mem_nil, or_false] at start
      rcases start with rfl | rfl | rfl | rfl | rfl | rfl <;> rfl
  | language letters =>
    rw [List.cons_append, afterSuffix, List.dropWhile_append_of_pos letters]
    exact delimited.dropWhile (by simp [Text.isAlphanumeric])
  | @reference text closed =>
    simp only [List.cons_append, List.append_assoc, List.nil_append, afterSuffix]
    exact afterUri_closed closed rest
  | @datatype word inside last =>
    -- Neither a name nor what is behind it begins with a bracket, so it is not taken for a reference.
    have plain : ∀ s, word ++ rest = '<' :: s → False := by
      intro s same
      cases word with
      | nil =>
        have start := delimited.head '<' (by simpa using congrArg List.head? same)
        simp at start
      | cons c word =>
        cases (List.cons.inj same).1
        have ends := inside '<' (by simp)
        revert ends
        decide
    rw [List.cons_append, List.cons_append, afterSuffix, afterDatatype_append inside last delimited]
    exact plain

/-- What may stand right behind a text in quotes may be attached to it. -/
theorem Suffix.attached {suffix : List Char} (h : Suffix suffix) : Attached suffix := by
  cases h with
  | none => exact .nothing
  | language letters => exact .language letters
  | reference closed => exact .reference closed
  | datatype inside last =>
    exact .datatype (fun c known => (continuesWord_iff.mp (inside c known)).2) last

/-- A gap delimits what stands in front of it. -/
theorem Apart.delimited {s : List Char} (h : Apart s) : Delimited s := by
  cases s with
  | nil => exact .nothing
  | cons c s =>
    have sep : separates c = true := h c rfl
    simp only [separates, Bool.or_eq_true, decide_eq_true_eq] at sep
    rcases sep with rfl | rfl
    · exact .sign s (by simp)
    · exact .sign s (by simp)

/-- What is written like a token is scanned as that token, in front of a gap. -/
theorem scan_spelled {c : Char} {w s : List Char} {l : Lexeme} (h : Spelled (c :: w) l)
    (apart : Apart s) : scan c (w ++ s) = .ok ([l], s) := by
  generalize same : c :: w = text at h
  cases h with
  | @uri text closed unbroken =>
    cases same
    have read : readUri (text ++ ['>'] ++ s) = some (text, s) := by
      rw [List.append_assoc]
      exact readUri_closed closed s
    exact (Scanned.reference rfl read).scan_eq
  | @quoted body value suffix reads ends unbroken =>
    cases same
    have read : readQuoted (body ++ '"' :: suffix ++ s) = some (value, s) := by
      rw [List.append_assoc, List.cons_append, readQuoted, readQuotedFrom_body reads]
      simp [ends.attached.afterSuffix_append apart.delimited]
    exact (Scanned.quoted rfl read).scan_eq
  | openBracket => cases same; rfl
  | closeBracket => cases same; rfl
  | semicolon => cases same; rfl
  | comma => cases same; rfl
  | stop =>
    cases same
    exact (Scanned.stop rfl apart.endsStatement).scan_eq
  | word nonempty inside last comment declares =>
    subst same
    obtain ⟨blank, ends⟩ := continuesWord_iff.mp (inside c (by simp))
    have inside_ : ∀ d ∈ c :: w, (!endsWord d) = true := by
      intro d known
      simp [(continuesWord_iff.mp (inside d known)).2]
    obtain ⟨taken, left⟩ := apart.cut (p := fun c => !endsWord c) (by decide) (by decide) inside_
    rw [List.cons_append] at taken left
    -- A full stop at the front of a word has more of the word behind it.
    have noStop : (c = '.' && endsStatement (w ++ s)) = false := by
      cases w with
      | nil =>
        have other : c ≠ '.' := by
          rintro rfl
          exact last rfl
        simp [other]
      | cons d w =>
        have inner := (continuesWord_iff.mp (inside d (by simp))).1
        simp [endsStatement, inner]
    have found := (Scanned.word blank (fun _ => ends) noStop).scan_eq
    rw [taken, left] at found
    simpa [wordLexemes, last] using found

/-! ## The ends of a token -/

/-- A suffix is empty or does not end with a blank. -/
theorem Suffix.ends {suffix : List Char} (h : Suffix suffix) :
    suffix = [] ∨ ∃ init c, suffix = init ++ [c] ∧ Text.isBlank c = false := by
  cases h with
  | none => exact Or.inl rfl
  | @language tag letters =>
    right
    rcases List.eq_nil_or_concat tag with rfl | ⟨init, c, rfl⟩
    · exact ⟨[], '@', rfl, by decide⟩
    · have letter := letters c (by simp)
      simp only [Bool.or_eq_true, decide_eq_true_eq] at letter
      refine ⟨'@' :: init, c, by simp, ?_⟩
      rcases letter with letter | rfl
      · exact Text.not_isBlank_of_isAlphanumeric letter
      · decide
  | @reference text closed => exact Or.inr ⟨'^' :: '^' :: '<' :: text, '>', rfl, by decide⟩
  | @datatype word inside last =>
    right
    rcases List.eq_nil_or_concat word with rfl | ⟨init, c, rfl⟩
    · exact ⟨['^'], '^', rfl, by decide⟩
    · exact ⟨'^' :: '^' :: init, c, by simp, (continuesWord_iff.mp (inside c (by simp))).1⟩

/-- A token begins with a character that is neither blank nor a closing bracket nor a hash sign. -/
theorem Spelled.begins {w : List Char} {l : Lexeme} (h : Spelled w l) :
    ∃ c rest, w = c :: rest ∧ Text.isBlank c = false ∧ c ≠ '>' ∧ c ≠ '#' := by
  cases h with
  | word nonempty inside last comment declares =>
    obtain ⟨c, rest, rfl⟩ := List.exists_cons_of_ne_nil nonempty
    obtain ⟨blank, ends⟩ := continuesWord_iff.mp (inside c (by simp))
    refine ⟨c, rest, rfl, blank, ?_, ?_⟩
    · rintro rfl
      simp [endsWord] at ends
    · rintro rfl
      exact comment rfl
  | _ => exact ⟨_, _, rfl, by decide, by decide, by decide⟩

/-- A token does not end with a blank. -/
theorem Spelled.ends {w : List Char} {l : Lexeme} (h : Spelled w l) :
    ∃ init c, w = init ++ [c] ∧ Text.isBlank c = false := by
  cases h with
  | @uri text closed unbroken => exact ⟨'<' :: text, '>', rfl, by decide⟩
  | @quoted body value suffix reads ends unbroken =>
    rcases ends.ends with rfl | ⟨init, c, rfl, blank⟩
    · exact ⟨'"' :: body, '"', rfl, by decide⟩
    · exact ⟨'"' :: (body ++ '"' :: init), c, by simp, blank⟩
  | word nonempty inside last comment declares =>
    obtain ⟨init, c, rfl⟩ := (List.eq_nil_or_concat w).resolve_left nonempty
    exact ⟨init, c, by simp, (continuesWord_iff.mp (inside c (by simp))).1⟩
  | _ => exact ⟨[], _, rfl, by decide⟩

/-- No line breaks within a token. -/
theorem Spelled.unbroken {w : List Char} {l : Lexeme} (h : Spelled w l) : Unbroken w := by
  intro c known
  cases h with
  | uri closed unbroken =>
    simp only [List.mem_cons, List.mem_append, List.not_mem_nil, or_false] at known
    rcases known with rfl | known | rfl
    · decide
    · exact unbroken c known
    · decide
  | quoted reads ends unbroken =>
    simp only [List.mem_cons, List.mem_append] at known
    rcases known with rfl | known | rfl | known
    · decide
    · exact unbroken c (by simp [known])
    · decide
    · exact unbroken c (by simp [known])
  | word nonempty inside last comment declares =>
    exact Text.not_isLineBreak_of_not_isBlank (continuesWord_iff.mp (inside c known)).1
  | _ =>
    cases List.mem_singleton.mp known
    decide

/-- A line that begins with a token is no declaration of a prefix. -/
theorem Spelled.not_declares {w s : List Char} {l : Lexeme} (h : Spelled w l) (apart : Apart s) :
    ¬prefixWord.toList <+: w ++ s := by
  intro declared
  cases h with
  | word nonempty inside last comment declares =>
    rcases List.prefix_or_prefix_of_prefix declared (List.prefix_append w s) with whole | part
    · exact declares whole
    · -- The rest of the word that declares would have to begin with a gap.
      obtain ⟨t, split_⟩ := part
      rw [← split_, List.prefix_append_right_inj] at declared
      cases t with
      | nil =>
        rw [List.append_nil] at split_
        exact declares (split_ ▸ List.prefix_rfl)
      | cons c t =>
        obtain ⟨s', rfl⟩ := declared
        have sep : separates c = true := apart c rfl
        have letters : prefixWord.toList.all (fun d => !separates d) = true := by decide
        have letter := List.all_eq_true.mp letters c (by rw [← split_]; simp)
        simp [sep] at letter
  | _ =>
    obtain ⟨t, same⟩ := declared
    simp [prefixWord] at same

/-! ## Reading a line -/

/-- One turn that gets past its character: what it reads is found next. -/
theorem lexemesFrom_cons {found next : List Lexeme} {c : Char} {rest after : List Char}
    (h : scan c rest = .ok (next, after)) (progress : c ≠ '>') :
    lexemesFrom found (c :: rest) = lexemesFrom (next.reverse ++ found) after := by
  rw [lexemesFrom]
  split
  · simp_all
  · simp_all

/-- A gap is skipped. -/
theorem lexemesFrom_gap {gap : List Char} (h : IsGap gap)
    (found : List Lexeme) (s : List Char) : lexemesFrom found (gap ++ s) = lexemesFrom found s := by
  induction gap with
  | nil => rfl
  | cons c gap ih =>
    have sep : separates c = true := h c (by simp)
    have skip : scan c (gap ++ s) = .ok ([], gap ++ s) := by
      rw [scan, isBlank_of_separates sep, if_pos rfl]
    rw [List.cons_append, lexemesFrom_cons skip]
    · exact ih fun d known => h d (by simp [known])
    · rintro rfl
      simp [separates] at sep

/-- A token in front of a gap is found next. -/
theorem lexemesFrom_token (t : Spelling) {s : List Char} (apart : Apart s)
    (found : List Lexeme) : lexemesFrom found (t.text ++ s) = lexemesFrom (t.lexeme :: found) s := by
  obtain ⟨c, rest, text, -, progress, -⟩ := t.spelled.begins
  have spelled := t.spelled
  rw [text] at spelled ⊢
  exact lexemesFrom_cons (scan_spelled spelled apart) progress

/-- Tokens that stand apart are those that are found. -/
theorem lexemesFrom_spread {ts : List Spelling} {s : List Char} (h : Spread ts s)
    (found : List Lexeme) :
    lexemesFrom found s = .ok (found.reverse ++ ts.map Spelling.lexeme) := by
  induction h generalizing found with
  | @gap gap blank =>
    have ending := lexemesFrom_gap blank found []
    rw [List.append_nil] at ending
    rw [ending, lexemesFrom, List.map_nil, List.append_nil]
  | token gap t blank others apart ih =>
    rw [lexemesFrom_gap blank, lexemesFrom_token t apart, ih]
    simp

/-! ## Trimming a line -/

/-- What stands apart still does when the blanks at the end are gone. -/
theorem Apart.trimBack {s : List Char} (h : Apart s) : Apart (Text.trimBack s) := by
  obtain ⟨t, whole⟩ := Text.trimBack_isPrefix s
  cases kept : Text.trimBack s with
  | nil => simp [Apart]
  | cons c rest =>
    rw [kept] at whole
    intro d first
    cases first
    exact h c (by rw [← whole]; rfl)

/-- Blanks at the end of a line are behind its last token. -/
theorem Spelling.trimBack (t : Spelling) (front s : List Char) :
    Text.trimBack (front ++ (t.text ++ s)) = front ++ (t.text ++ Text.trimBack s) := by
  obtain ⟨init, c, text, blank⟩ := t.spelled.ends
  have kept := Text.trimBack_append (front ++ init) blank s
  rw [text]
  simpa using kept

/-- Tokens that are spread on a line still are when the blanks at its end are gone. -/
theorem Spread.trimBack {ts : List Spelling} {s : List Char} (h : Spread ts s) :
    Spread ts (Text.trimBack s) := by
  induction h with
  | @gap gap blank =>
    exact Spread.gap fun c known => blank c ((Text.trimBack_isPrefix gap).mem known)
  | token gap t blank others apart ih =>
    rw [t.trimBack]
    exact Spread.token gap t blank ih apart.trimBack

/-- Of a line that begins with a gap and a token, the blanks at both ends go. -/
theorem Spelling.trim (t : Spelling) {gap : List Char} (blank : IsGap gap)
    (s : List Char) : Text.trim (gap ++ (t.text ++ s)) = t.text ++ Text.trimBack s := by
  obtain ⟨c, text, same, ink, -⟩ := t.spelled.begins
  have front : Text.trimFront (t.text ++ s) = t.text ++ s := by
    rw [same]
    exact Text.trimFront_of_not_isBlank ink _
  rw [Text.trim, Text.trimFront_append fun c known => isBlank_of_separates (blank c known), front]
  exact t.trimBack [] s

/-- Tokens on one line. -/
def onLine (number : Int) (ts : List Spelling) : List Token :=
  ts.map fun t => ⟨t.lexeme, number⟩

/-- The tokens that a line gets are those that are written on it. -/
theorem onLine_lexemes (number : Int) (ts : List Spelling) :
    (onLine number ts).map Token.lexeme = ts.map Spelling.lexeme := by
  simp [onLine]

/-- Taking in a line of tokens adds these. -/
theorem addLine_of_spread {ts : List Spelling} {line : List Char} (h : Spread ts line)
    (acc : Lexed) (number : Int) :
    acc.addLine number (Text.trim line) =
      .ok ⟨acc.prefixes, (onLine number ts).reverse ++ acc.tokens⟩ := by
  cases h with
  | gap blank =>
    rw [Text.trim_of_blank fun c known => isBlank_of_separates (blank c known)]
    rfl
  | @token gap t rest s blank others apart =>
    have whole : Spread (t :: rest) (t.text ++ Text.trimBack s) :=
      Spread.token [] t (by decide) others.trimBack apart.trimBack
    have found := lexemesFrom_spread whole []
    have uncommented : ((t.text ++ Text.trimBack s).isEmpty ||
        (t.text ++ Text.trimBack s).head? = some '#') = false := by
      obtain ⟨c, text, same, -, -, comment⟩ := t.spelled.begins
      simp [same, comment]
    have undeclared : prefixWord.toList.isPrefixOf (t.text ++ Text.trimBack s) = false := by
      rw [Bool.eq_false_iff, ne_eq, List.isPrefixOf_iff_prefix]
      exact t.spelled.not_declares apart.trimBack
    rw [t.trim blank, Lexed.addLine, uncommented, undeclared, lexemes, found]
    simp [onLine]

/-- A line on which tokens are spread has no break. -/
theorem Spread.unbroken {ts : List Spelling} {line : List Char} (h : Spread ts line) :
    Unbroken line := by
  induction h with
  | gap blank => exact fun c known => not_isLineBreak_of_separates (blank c known)
  | token gap t blank others apart ih =>
    have first : Unbroken gap := fun c known => not_isLineBreak_of_separates (blank c known)
    exact Text.unbroken_append.mpr ⟨first, Text.unbroken_append.mpr ⟨t.spelled.unbroken, ih⟩⟩

end DocGraph.Block
