import DocGraph.Git
import DocGraph.Proofs.Path
import DocGraph.Proofs.Text.Lines
import DocGraph.Proofs.Text.Occurrence
import Mathlib

/-!
# How git writes a status, and how it is read

A status has a line for each file: two signs that say how the file stands, a blank, and its name, with
the name that it had before in front if it was renamed or copied. A name that has a blank in it, or a
character that is not shown as it is, stands in quotes. A quote, a backslash and a control character are
escaped there, and so are the bytes of a character that is not ASCII.

The reading takes the quotes off but leaves the escapes, and it takes the first mark of a renaming for
one, whatever it belongs to. So what is told of a file is its escaped name, without the quotes at its
ends, if no mark stands in the first name of its line (`told_of_noMark`); if one does, what is told is cut
out from behind it (`told_of_mark`).
-/

set_option autoImplicit false

namespace DocGraph.Git

/-! ## What git writes -/

/-- How a file stands, in the index or in the working tree. -/
inductive Standing where
  | unmodified
  | modified
  | typeChanged
  | added
  | deleted
  | renamed
  | copied
  | unmerged
  | untracked
  | ignored
  deriving DecidableEq, Repr

/-- The sign for how a file stands. -/
def Standing.sign : Standing → Char
  | .unmodified => ' '
  | .modified => 'M'
  | .typeChanged => 'T'
  | .added => 'A'
  | .deleted => 'D'
  | .renamed => 'R'
  | .copied => 'C'
  | .unmerged => 'U'
  | .untracked => '?'
  | .ignored => '!'

/-- Whether a file comes from another one. -/
def Standing.moves : Standing → Bool
  | .renamed => true
  | .copied => true
  | _ => false

/-- The name of a file in a repository: names of entries, one below the other. -/
structure FileName where
  parts : List String
  nonempty : parts ≠ []
  valid : ∀ part ∈ parts, ValidName part

/-- The name as text, with slashes between its parts. -/
def FileName.text (n : FileName) : String :=
  "/".intercalate n.parts

/-- A file in a status. It has a former name exactly if it was renamed or copied. -/
structure StatusEntry where
  index : Standing
  tree : Standing
  former : Option FileName
  name : FileName
  moved : former.isSome = (index.moves || tree.moves)

/-- Whether a character is shown as it is: it is one of ASCII that can be printed, but neither a quote
nor a backslash. -/
def isPlain (c : Char) : Bool :=
  0x20 ≤ c.toNat && c.toNat < 0x7F && c ≠ '"' && c ≠ '\\'

/-- The sign that stands for a character behind a backslash, if there is one. -/
def escapeSign? : Char → Option Char
  | '"' => some '"'
  | '\\' => some '\\'
  | '\x07' => some 'a'
  | '\x08' => some 'b'
  | '\t' => some 't'
  | '\n' => some 'n'
  | '\x0b' => some 'v'
  | '\x0c' => some 'f'
  | '\r' => some 'r'
  | _ => none

/-- A byte in three octal digits. -/
def octalDigits (b : UInt8) : List Char :=
  [Nat.digitChar (b.toNat / 64), Nat.digitChar (b.toNat / 8 % 8), Nat.digitChar (b.toNat % 8)]

/-- A character as it is written in quotes. -/
def escape (c : Char) : List Char :=
  if isPlain c then [c]
  else
    match escapeSign? c with
    | some sign => ['\\', sign]
    | none => (String.utf8EncodeChar c).flatMap fun b => '\\' :: octalDigits b

/-- A name as it is written in quotes. -/
def escaped (name : List Char) : List Char :=
  name.flatMap escape

/-- A name as it is written, in quotes if it has a blank or a character that is not shown as it is. -/
def shown (name : List Char) : List Char :=
  if name.any fun c => c = ' ' || !isPlain c then '"' :: (escaped name ++ ['"']) else name

/-- The name on a line, or both names. -/
def StatusEntry.names (e : StatusEntry) : List Char :=
  match e.former with
  | none => shown e.name.text.toList
  | some old => shown old.text.toList ++ (renameMark ++ shown e.name.text.toList)

/-- The line for a file. -/
def StatusEntry.line (e : StatusEntry) : List Char :=
  e.index.sign :: e.tree.sign :: ' ' :: e.names

/-- The status of several files. -/
def status (entries : List StatusEntry) : String :=
  String.ofList (entries.flatMap fun e => e.line ++ ['\n'])

/-- The name that stands first on a line. -/
def StatusEntry.firstName (e : StatusEntry) : FileName :=
  e.former.getD e.name

/-! ## Escapes -/

/-- What an escape is written with. -/
def escapeLetters : List Char :=
  "\\\"abtnvfr01234567".toList

variable {c d : Char} {name : List Char}

/-- A name is escaped character by character. -/
theorem escaped_cons (c : Char) (name : List Char) : escaped (c :: name) = escape c ++ escaped name :=
  List.flatMap_cons

/-- A name is escaped piece by piece. -/
theorem escaped_append (first second : List Char) :
    escaped (first ++ second) = escaped first ++ escaped second :=
  List.flatMap_append

/-- A plain character is written as it is. -/
theorem escape_of_plain (h : isPlain c = true) : escape c = [c] := by
  rw [escape, if_pos h]

/-- The octal digits of a byte are among what escapes are written with. -/
theorem octalDigits_letters (b : UInt8) : ∀ d ∈ octalDigits b, d ∈ escapeLetters := by
  have digit : ∀ n < 8, Nat.digitChar n ∈ escapeLetters := by decide
  have small : b.toNat < 256 := b.toNat_lt
  intro d member
  simp only [octalDigits, List.mem_cons, List.not_mem_nil, or_false] at member
  rcases member with rfl | rfl | rfl <;> exact digit _ (by omega)

/-- The sign for a character is among what escapes are written with. -/
theorem escapeSign_letters {sign : Char} (h : escapeSign? c = some sign) : sign ∈ escapeLetters := by
  unfold escapeSign? at h
  split at h <;> cases h <;> decide

/-- A character that is not shown as it is becomes a backslash, with more letters of escapes. -/
theorem escape_of_not_plain (h : isPlain c = false) :
    ∃ tail, escape c = '\\' :: tail ∧ ∀ d ∈ escape c, d ∈ escapeLetters := by
  have backslash : '\\' ∈ escapeLetters := by decide
  unfold escape
  rw [if_neg (by simp [h])]
  cases sign : escapeSign? c with
  | some s => exact ⟨[s], rfl, by simp [backslash, escapeSign_letters sign]⟩
  | none =>
    have some_ : String.utf8EncodeChar c ≠ [] := by
      rw [ne_eq, ← List.length_eq_zero_iff, String.length_utf8EncodeChar]
      exact Nat.ne_of_gt c.utf8Size_pos
    obtain ⟨b, bytes, split⟩ := List.exists_cons_of_ne_nil some_
    refine ⟨_, by rw [split, List.flatMap_cons, List.cons_append], ?_⟩
    intro d member
    obtain ⟨b, -, inside⟩ := List.mem_flatMap.mp member
    rcases List.mem_cons.mp inside with rfl | digit
    · exact backslash
    · exact octalDigits_letters b d digit

/-- What is no letter of an escape stands in an escaped name where it stands in the name. -/
theorem count_escaped (plain : isPlain d = true) (foreign : d ∉ escapeLetters) (name : List Char) :
    (escaped name).count d = name.count d := by
  induction name with
  | nil => rfl
  | cons c name ih =>
    rw [escaped_cons, List.count_append, ih]
    cases h : isPlain c with
    | true => rw [escape_of_plain h, List.count_cons, List.count_cons, List.count_nil]; omega
    | false =>
      obtain ⟨-, -, letters⟩ := escape_of_not_plain h
      have absent : (escape c).count d = 0 := List.count_eq_zero.mpr fun inside => foreign (letters d inside)
      have other : c ≠ d := by
        rintro rfl
        rw [h] at plain
        cases plain
      rw [absent, List.count_cons_of_ne other, Nat.zero_add]

/-- The escape of a character has more backslashes than the character. -/
theorem count_backslash_escape (h : isPlain c = false) : [c].count '\\' < (escape c).count '\\' := by
  by_cases same : c = '\\'
  · subst same
    decide
  · obtain ⟨tail, split, -⟩ := escape_of_not_plain h
    rw [split, List.count_cons_self, List.count_eq_zero.mpr (by simpa using Ne.symm same)]
    exact Nat.succ_pos _

/-- A name of plain characters is written as it is. -/
theorem escaped_of_plain (h : ∀ c ∈ name, isPlain c = true) : escaped name = name := by
  induction name with
  | nil => rfl
  | cons c name ih =>
    obtain ⟨first, others⟩ := List.forall_mem_cons.mp h
    rw [escaped_cons, escape_of_plain first, ih others, List.singleton_append]

/-- Escaping takes no backslash away. -/
theorem count_backslash_le (name : List Char) : name.count '\\' ≤ (escaped name).count '\\' := by
  induction name with
  | nil => exact Nat.le_refl _
  | cons c name ih =>
    rw [escaped_cons, List.count_append]
    have split : (c :: name).count '\\' = [c].count '\\' + name.count '\\' := by
      rw [← List.count_append, List.singleton_append]
    rw [split]
    cases h : isPlain c with
    | true =>
      rw [escape_of_plain h]
      omega
    | false =>
      have more := count_backslash_escape h
      omega

/-- A name with a character that is not shown as it is has more backslashes when it is escaped. -/
theorem count_backslash_lt (member : c ∈ name) (h : isPlain c = false) :
    name.count '\\' < (escaped name).count '\\' := by
  obtain ⟨front, back, rfl⟩ := List.append_of_mem member
  have before := count_backslash_le front
  have behind := count_backslash_le back
  have more := count_backslash_escape h
  have single : (c :: back).count '\\' = [c].count '\\' + back.count '\\' := by
    rw [← List.count_append, List.singleton_append]
  rw [escaped_append, escaped_cons, List.count_append, List.count_append, List.count_append, single]
  omega

/-! ## The mark of a renaming -/

/-- The mark between two names is an arrow between blanks. -/
theorem renameMark_eq : renameMark = [' ', '-', '>', ' '] :=
  rfl

/-- The mark is made of plain characters. -/
theorem renameMark_plain : ∀ c ∈ renameMark, isPlain c = true := by
  simp [renameMark_eq, isPlain]

/-- Plain characters in front of an escaped name are in front of the name. -/
theorem prefix_of_prefix_escaped {start : List Char} (plain : ∀ c ∈ start, isPlain c = true)
    (h : start <+: escaped name) : start <+: name := by
  induction start generalizing name with
  | nil => exact List.nil_prefix
  | cons d start ih =>
    obtain ⟨first, others⟩ := List.forall_mem_cons.mp plain
    cases name with
    | nil => exact h
    | cons c name =>
      rw [escaped_cons] at h
      cases shown : isPlain c with
      | true =>
        rw [escape_of_plain shown, List.singleton_append] at h
        obtain ⟨rfl, rest⟩ := List.cons_prefix_cons.mp h
        exact List.cons_prefix_cons.mpr ⟨rfl, ih others rest⟩
      | false =>
        obtain ⟨tail, split, -⟩ := escape_of_not_plain shown
        rw [split, List.cons_append] at h
        obtain ⟨rfl, -⟩ := List.cons_prefix_cons.mp h
        cases first

/-- Escaping a name neither adds a mark to it nor takes one away. -/
theorem renameMark_infix_escaped_iff : renameMark <:+: escaped name ↔ renameMark <:+: name := by
  constructor
  · intro h
    induction name with
    | nil => exact h
    | cons c name ih =>
      cases shown : isPlain c with
      | true =>
        have unfolded : escaped (c :: name) = c :: escaped name := by
          rw [escaped_cons, escape_of_plain shown, List.singleton_append]
        rw [unfolded, List.infix_cons_iff, ← unfolded] at h
        rcases h with starts | later
        · exact (prefix_of_prefix_escaped renameMark_plain starts).isInfix
        · exact List.infix_cons (ih later)
      | false =>
        obtain ⟨-, -, letters⟩ := escape_of_not_plain shown
        have foreign : ∀ d ∈ escape c, d ≠ ' ' := by
          rintro d member rfl
          exact absurd (letters ' ' member) (by decide)
        rw [← Text.occursIn_iff_isInfix, escaped_cons] at h
        have skipped := Text.occursIn_skip ['-', '>', ' '] (escape c) (escaped name) foreign
        rw [renameMark_eq, skipped, ← renameMark_eq, Text.occursIn_iff_isInfix] at h
        exact List.infix_cons (ih h)
  · rintro ⟨before, behind, rfl⟩
    refine ⟨escaped before, escaped behind, ?_⟩
    rw [escaped_append, escaped_append, escaped_of_plain renameMark_plain]

/-- A name is written in quotes, or as it is if it has neither a blank nor an escape. -/
theorem shown_cases (name : List Char) :
    shown name = '"' :: (escaped name ++ ['"']) ∨
      shown name = name ∧ ∀ c ∈ name, isPlain c = true ∧ c ≠ ' ' := by
  unfold shown
  split
  · exact Or.inl rfl
  next open_ =>
    refine Or.inr ⟨rfl, fun c member => ?_⟩
    have fine := List.any_eq_false.mp (Bool.eq_false_of_not_eq_true open_) c member
    simpa [and_comm] using fine

/-- A mark that stands in a written name, or reaches into it from behind, stands in the name. -/
theorem renameMark_infix_of_shown (h : renameMark <:+: shown name ++ renameMark.dropLast) :
    renameMark <:+: name := by
  have some_ : renameMark ≠ [] := by decide
  have quote : '"' ∉ renameMark := by decide
  rcases shown_cases name with quoted | ⟨bare, plain⟩
  · rw [quoted, List.cons_append, List.append_assoc, List.singleton_append,
      ← List.nil_append ('"' :: _), Text.infix_append_cons_iff some_ quote, Text.infix_append_cons_iff some_ quote,
      renameMark_infix_escaped_iff] at h
    rcases h with none_ | inside | none_
    · exact absurd none_ (by decide)
    · exact inside
    · exact absurd none_ (by decide)
  · -- There is one blank in all, and the mark has two.
    have blanks := h.sublist.count_le ' '
    have none_ : name.count ' ' = 0 := List.count_eq_zero.mpr fun member => (plain ' ' member).2 rfl
    rw [bare, List.count_append, none_] at blanks
    exact absurd blanks (by decide)

/-- A mark in a name is in the name as it is shown. -/
theorem renameMark_infix_shown (h : renameMark <:+: name) : renameMark <:+: shown name := by
  rcases shown_cases name with quoted | ⟨bare, -⟩
  · rw [quoted]
    exact List.infix_cons ((renameMark_infix_escaped_iff.mpr h).trans (List.prefix_append _ _).isInfix)
  · rwa [bare]

/-- What a mark in a name leaves behind it, when the name is written. -/
theorem exists_cut_of_mark {before behind rest : List Char} (inside : renameMark <:+: name)
    (whole : shown name ++ rest = before ++ (renameMark ++ behind)) (first : ¬renameMark <:+: before) :
    ∃ front back, escaped name = front ++ (renameMark ++ back) ∧ behind = back ++ '"' :: rest := by
  have some_ : renameMark ≠ [] := by decide
  have quote : '"' ∉ renameMark := by decide
  rcases shown_cases name with quoted | ⟨-, plain⟩
  · have copy := renameMark_infix_escaped_iff.mpr inside
    rw [quoted, List.cons_append, List.append_assoc, List.singleton_append, ← List.cons_append] at whole
    rcases List.append_eq_append_iff.mp whole with ⟨between, rfl, -⟩ | ⟨between, split, further⟩
    · -- A cut behind the name would have passed the mark in it.
      exact absurd ((List.infix_cons copy).trans (List.prefix_append _ between).isInfix) first
    · rcases List.append_eq_append_iff.mp further with ⟨back, rfl, rfl⟩ | ⟨back, split', further'⟩
      · cases before with
        | nil => cases split
        | cons c front => exact ⟨front, back, (List.cons.inj split).2, rfl⟩
      · cases back with
        | nil =>
          rw [List.append_nil] at split'
          rw [← split'] at split
          cases before with
          | nil => cases split
          | cons c front =>
            exact ⟨front, [], by rw [List.append_nil]; exact (List.cons.inj split).2, further'.symm⟩
        | cons d back =>
          rw [List.cons_append] at further'
          rw [split', (List.cons.inj further').1] at quote
          exact absurd (by simp) quote
  · exact absurd rfl (plain ' ' (inside.subset (by decide))).2

/-! ## Quotes -/

/-- Quotes are dropped from the front and then from the back. -/
theorem withoutQuotes_eq (s : List Char) :
    withoutQuotes s = (s.dropWhile (· = '"')).rdropWhile (· = '"') :=
  rfl

/-- What is not dropped from the front is as often there as before. -/
theorem count_dropWhile_of_ne {p : Char → Bool} (other : p d = false) (s : List Char) :
    (s.dropWhile p).count d = s.count d := by
  induction s with
  | nil => rfl
  | cons c s ih =>
    rw [List.dropWhile_cons]
    split
    next dropped =>
      have differ : c ≠ d := by
        rintro rfl
        rw [other] at dropped
        cases dropped
      rw [ih, List.count_cons_of_ne differ]
    · rfl

/-- What is not dropped from the back is as often there as before. -/
theorem count_rdropWhile_of_ne {p : Char → Bool} (other : p d = false) (s : List Char) :
    (s.rdropWhile p).count d = s.count d := by
  rw [List.rdropWhile, List.count_reverse, count_dropWhile_of_ne other, List.count_reverse]

/-- Only quotes are dropped. -/
theorem count_withoutQuotes (other : d ≠ '"') (s : List Char) :
    (withoutQuotes s).count d = s.count d := by
  have keeps : decide (d = '"') = false := by simpa using other
  rw [withoutQuotes_eq, count_rdropWhile_of_ne keeps, count_dropWhile_of_ne keeps]

/-- A text without quotes stays as it is. -/
theorem withoutQuotes_of_not_mem {s : List Char} (h : '"' ∉ s) : withoutQuotes s = s := by
  have other : ∀ c ∈ s, ¬decide (c = '"') = true := by
    rintro c member quote
    exact h (of_decide_eq_true quote ▸ member)
  rw [withoutQuotes_eq, List.dropWhile_eq_self_iff.mpr fun _ => other _ (List.getElem_mem _),
    List.rdropWhile_eq_self_iff.mpr fun some_ => other _ (List.getLast_mem some_)]

/-- Dropping from the front goes no further than a character that is not dropped. -/
theorem dropWhile_append_cons {p : Char → Bool} (stops : p c = false) (front back : List Char) :
    (front ++ c :: back).dropWhile p = front.dropWhile p ++ c :: back := by
  rw [List.dropWhile_append, List.dropWhile_cons_of_neg (by simp [stops])]
  split
  next none_ => rw [List.isEmpty_iff.mp none_, List.nil_append]
  · rfl

/-- Only in front of a character that is no quote, and behind it, quotes are taken off. -/
theorem withoutQuotes_append_cons (other : c ≠ '"') (front back : List Char) :
    withoutQuotes (front ++ c :: back) =
      front.dropWhile (· = '"') ++ c :: back.rdropWhile (· = '"') := by
  have stops : decide (c = '"') = false := by simpa using other
  rw [withoutQuotes_eq, dropWhile_append_cons stops, List.rdropWhile, List.reverse_append,
    List.reverse_cons, List.append_assoc, List.singleton_append, dropWhile_append_cons stops]
  simp [List.rdropWhile]

/-- Quotes around a text are dropped. -/
theorem withoutQuotes_quoted (s : List Char) : withoutQuotes ('"' :: (s ++ ['"'])) = withoutQuotes s := by
  rw [withoutQuotes_eq, withoutQuotes_eq, List.dropWhile_cons_of_pos (by decide), List.dropWhile_append]
  split
  next none_ =>
    rw [List.isEmpty_iff.mp none_]
    rfl
  · rw [List.rdropWhile_concat, if_pos (by decide)]

/-- Without its quotes a written name is the escaped name, less the quotes at its ends. -/
theorem withoutQuotes_shown (name : List Char) : withoutQuotes (shown name) = withoutQuotes (escaped name) := by
  rcases shown_cases name with quoted | ⟨bare, plain⟩
  · rw [quoted, withoutQuotes_quoted]
  · rw [bare, escaped_of_plain fun c member => (plain c member).1]

/-! ## Lines -/

/-- A plain character that is not a space is not blank. -/
theorem not_isBlank_of_plain (h : isPlain c = true) (other : c ≠ ' ') : Text.isBlank c = false := by
  have code : c.toNat ≠ 0x20 := fun same => other (Char.toNat_inj.mp same)
  simp only [isPlain, Bool.and_eq_true, decide_eq_true_eq] at h
  rw [Text.isBlank, Text.inRanges, List.any_eq_false]
  intro r known inside
  simp only [Bool.and_eq_true, decide_eq_true_eq] at inside
  have outside : ∀ r ∈ Text.blankRanges, r.last ≤ 0x20 ∨ 0x7F ≤ r.first := by decide
  have apart := outside r known
  omega

/-- A plain character breaks no line. -/
theorem not_isLineBreak_of_plain (h : isPlain c = true) : Text.isLineBreak c = false := by
  by_cases blank : c = ' '
  · subst blank
    decide
  · exact Text.not_isLineBreak_of_not_isBlank (not_isBlank_of_plain h blank)

/-- An escaped name has no line break. -/
theorem unbroken_escaped (name : List Char) : Text.Unbroken (escaped name) := by
  intro d member
  obtain ⟨c, -, inside⟩ := List.mem_flatMap.mp member
  cases plain : isPlain c with
  | true =>
    rw [escape_of_plain plain, List.mem_singleton] at inside
    exact inside ▸ not_isLineBreak_of_plain plain
  | false =>
    obtain ⟨-, -, letters⟩ := escape_of_not_plain plain
    have unbroken : Text.Unbroken escapeLetters := by decide
    exact unbroken d (letters d inside)

/-- A name has no line break as it is shown. -/
theorem unbroken_shown (name : List Char) : Text.Unbroken (shown name) := by
  rcases shown_cases name with quoted | ⟨bare, plain⟩
  · have quote : Text.Unbroken ['"'] := by decide
    rw [quoted, ← List.singleton_append]
    exact Text.unbroken_append.mpr ⟨quote, Text.unbroken_append.mpr ⟨unbroken_escaped name, quote⟩⟩
  · rw [bare]
    exact fun c member => not_isLineBreak_of_plain (plain c member).1

/-- The line for a file is a single line. -/
theorem StatusEntry.unbroken_line (e : StatusEntry) : Text.Unbroken e.line := by
  have sign : ∀ s : Standing, Text.isLineBreak s.sign = false := by
    intro s
    cases s <;> decide
  have mark : Text.Unbroken renameMark := by decide
  have names : Text.Unbroken e.names := by
    unfold StatusEntry.names
    split
    · exact unbroken_shown _
    · exact Text.unbroken_append.mpr
        ⟨unbroken_shown _, Text.unbroken_append.mpr ⟨mark, unbroken_shown _⟩⟩
  exact List.forall_mem_cons.mpr ⟨sign _, List.forall_mem_cons.mpr ⟨sign _,
    List.forall_mem_cons.mpr ⟨by decide, names⟩⟩⟩

/-- The lines of a status are those of its files. -/
theorem lines_status (entries : List StatusEntry) :
    Text.lines (status entries).toList = entries.map StatusEntry.line := by
  rw [status, String.toList_ofList]
  induction entries with
  | nil => rfl
  | cons e rest ih =>
    rw [List.flatMap_cons, List.append_assoc, List.singleton_append,
      Text.lines_append_break e.unbroken_line (by decide) (by decide), ih, List.map_cons]

/-- So each file is told of, or not, by its own line. -/
theorem statusNames_status (entries : List StatusEntry) :
    statusNames (status entries) = entries.filterMap fun e => statusName e.line := by
  rw [statusNames, lines_status, List.filterMap_map]
  rfl

/-! ## What is told of a file -/

/-- A name starts with a character that is no slash. -/
theorem FileName.text_cons (n : FileName) : ∃ c rest, n.text.toList = c :: rest ∧ c ≠ '/' := by
  obtain ⟨part, more, split⟩ := List.exists_cons_of_ne_nil n.nonempty
  have valid := n.valid part (by simp [split])
  have first := head_joined valid.nonempty more
  rw [← split, ← FileName.text] at first
  have some_ : part.toList ≠ [] := String.toList_eq_nil_iff.not.mpr valid.nonempty
  obtain ⟨c, letters, chars⟩ := List.exists_cons_of_ne_nil some_
  rw [chars, List.head?_cons] at first
  obtain ⟨rest, whole⟩ := List.head?_eq_some_iff.mp first
  refine ⟨c, rest, whole, ?_⟩
  rintro rfl
  exact valid.head_ne (by rw [chars, List.head?_cons])

/-- The name of a file is not empty. -/
theorem FileName.toList_ne_nil (n : FileName) : n.text.toList ≠ [] := by
  obtain ⟨c, rest, chars, -⟩ := n.text_cons
  simp [chars]

/-- A written name has no blank at its ends. -/
theorem shown_ends (some_ : name ≠ []) : (∃ c rest, shown name = c :: rest ∧ Text.isBlank c = false) ∧
    ∃ front c, shown name = front ++ [c] ∧ Text.isBlank c = false := by
  rcases shown_cases name with quoted | ⟨bare, plain⟩
  · exact ⟨⟨'"', _, quoted, by decide⟩, '"' :: escaped name, '"', quoted, by decide⟩
  · have ink : ∀ c ∈ name, Text.isBlank c = false := fun c member =>
      not_isBlank_of_plain (plain c member).1 (plain c member).2
    rw [bare]
    constructor
    · obtain ⟨c, rest, rfl⟩ := List.exists_cons_of_ne_nil some_
      exact ⟨c, rest, rfl, ink c (by simp)⟩
    · obtain ⟨front, c, rfl⟩ := (List.eq_nil_or_concat name).resolve_left some_
      exact ⟨front, c, List.concat_eq_append, ink c (by simp)⟩

/-- The names on a line neither begin nor end with a blank. -/
theorem StatusEntry.names_ends (e : StatusEntry) : (∃ c rest, e.names = c :: rest ∧ Text.isBlank c = false) ∧
    ∃ front c, e.names = front ++ [c] ∧ Text.isBlank c = false := by
  obtain ⟨starts, front, d, ends, blank⟩ := shown_ends e.name.toList_ne_nil
  unfold StatusEntry.names
  split
  · exact ⟨starts, front, d, ends, blank⟩
  next old _ =>
    obtain ⟨⟨c, rest, first, ink⟩, -⟩ := shown_ends old.toList_ne_nil
    exact ⟨⟨c, _, by rw [first, List.cons_append], ink⟩, _, d, by rw [ends, ← List.append_assoc,
      ← List.append_assoc], blank⟩

/-- What is told of a file: what stands on its line behind the first mark, or all of it if there is no
mark, without the quotes at its ends. -/
def StatusEntry.told (e : StatusEntry) : List Char :=
  withoutQuotes (((Text.breakOn renameMark e.names).map Prod.snd).getD e.names)

/-- The name that is read off the line for a file is what is told of it, unless that is empty. -/
theorem statusName_line (e : StatusEntry) :
    statusName e.line = if e.told.isEmpty then none else some (String.ofList e.told) := by
  obtain ⟨⟨c, rest, starts, first⟩, front, d, ends, last⟩ := e.names_ends
  have long : ¬e.line.length < 4 := by
    simp [StatusEntry.line, starts]
  have trimmed : Text.trim (e.line.drop 3) = e.names := by
    refine Text.trim_of_ends ?_ ?_
    · simpa [StatusEntry.line, starts] using first
    · simpa [StatusEntry.line, ends] using last
  rw [statusName, if_neg long, trimmed]
  rfl

/-- If no mark stands in the first name of a line, what is told is the escaped name of the file, less the
quotes at its ends. -/
theorem told_of_noMark {e : StatusEntry} (h : ¬renameMark <:+: e.firstName.text.toList) :
    e.told = withoutQuotes (escaped e.name.text.toList) := by
  rw [← withoutQuotes_shown, StatusEntry.told]
  unfold StatusEntry.firstName at h
  unfold StatusEntry.names
  cases former : e.former with
  | none =>
    rw [former] at h
    have absent : ¬renameMark <:+: shown e.name.text.toList := fun inside =>
      h (renameMark_infix_of_shown (inside.trans (List.prefix_append _ _).isInfix))
    rw [Text.breakOn_eq_none_iff.mpr absent]
    rfl
  | some old =>
    rw [former] at h
    have absent : ¬renameMark <:+: shown old.text.toList ++ renameMark.dropLast := fun inside =>
      h (renameMark_infix_of_shown inside)
    dsimp only
    rw [Text.breakOn, Text.breakOnFrom_first absent]
    rfl

/-- What stands on a line behind the first name. -/
def StatusEntry.behindFirst (e : StatusEntry) : List Char :=
  if e.former.isSome then renameMark ++ shown e.name.text.toList else []

/-- The names on a line are the first one and what stands behind it. -/
theorem StatusEntry.names_eq (e : StatusEntry) :
    e.names = shown e.firstName.text.toList ++ e.behindFirst := by
  unfold StatusEntry.names StatusEntry.firstName StatusEntry.behindFirst
  cases e.former with
  | none => simp
  | some old => rfl

/-- If a mark stands in the first name of a line, what is told is cut out from behind it. -/
theorem told_of_mark {e : StatusEntry} (h : renameMark <:+: e.firstName.text.toList) :
    ∃ front back, escaped e.firstName.text.toList = front ++ (renameMark ++ back) ∧
      e.told = withoutQuotes (back ++ '"' :: e.behindFirst) := by
  have copy : renameMark <:+: e.names := by
    rw [e.names_eq]
    exact (renameMark_infix_shown h).trans (List.prefix_append _ _).isInfix
  rw [StatusEntry.told]
  cases cut : Text.breakOn renameMark e.names with
  | none => exact absurd copy (Text.breakOn_eq_none_iff.mp cut)
  | some parts =>
    obtain ⟨before, -, whole, absent⟩ := Text.breakOnFrom_passed (by decide) cut
    rw [e.names_eq] at whole
    obtain ⟨front, back, split, behind⟩ := exists_cut_of_mark h whole absent
    exact ⟨front, back, split, by rw [← behind]; rfl⟩

end DocGraph.Git
