import DocGraph.Text.FileText
import DocGraph.Text.Occurrence
import Mathlib

/-!
# Where a pattern occurs

A text is cut at the first copy of a pattern in it: none stands before the cut (`breakOnFrom_passed`),
and a copy that none stands before, nor overlaps with, is where it is cut (`breakOnFrom_first`).

What occurs in bytes occurs in their text. A pattern of ASCII characters can be looked for in the
bytes of a file or in their text. Both give the same answer for every sequence of bytes, well formed
or not: `occursIn_ofFile`.

An ASCII byte is always read as the character it stands for, also behind a sequence that breaks off
in front of it. Every other byte belongs to a character that is not ASCII, and none is dropped. So
two ASCII characters are next to each other in the text exactly if their bytes are. Unifying line
breaks drops carriage returns only in front of line feeds, so for a pattern without either it does
not bring anything together.
-/

set_option autoImplicit false

namespace DocGraph.Text

/-! ## Occurrences -/

section Occurrences

variable {α : Type} [BEq α]

/-- Cutting at a pattern fails exactly where the pattern does not occur. -/
theorem breakOnFrom_eq_none_iff (pattern passed s : List α) :
    breakOnFrom pattern passed s = none ↔ occursIn pattern s = false := by
  induction s generalizing passed with
  | nil => cases pattern <;> simp [breakOnFrom, occursIn]
  | cons x rest ih =>
    have same := List.isSome_isPrefixOf?_eq_isPrefixOf pattern (x :: rest)
    unfold breakOnFrom occursIn
    cases cut : pattern.isPrefixOf? (x :: rest) with
    | some after =>
      rw [cut, Option.isSome_some] at same
      simp [← same]
    | none =>
      rw [cut, Option.isSome_none] at same
      simp [← same, ih]

/-- A pattern occurs at the front of a text or behind its first element. -/
theorem occursIn_cons_eq (pattern : List α) (x : α) (rest : List α) :
    occursIn pattern (x :: rest) = (pattern.isPrefixOf (x :: rest) || occursIn pattern rest) :=
  rfl

variable [LawfulBEq α]

/-- To occur is to stand between two parts of a list. -/
theorem occursIn_iff_isInfix (pattern s : List α) : occursIn pattern s = true ↔ pattern <:+: s := by
  induction s with
  | nil => simp [occursIn]
  | cons x rest ih =>
    rw [occursIn_cons_eq, Bool.or_eq_true, ih, List.isPrefixOf_iff_prefix, List.infix_cons_iff]

/-- A pattern is not at the front of a text that begins with something else. -/
theorem isPrefixOf_cons_of_ne {first x : α} (pattern rest : List α) (foreign : x ≠ first) :
    (first :: pattern).isPrefixOf (x :: rest) = false := by
  have differ : (first == x) = false := by simpa using Ne.symm foreign
  rw [List.isPrefixOf_cons_cons, differ, Bool.false_and]

/-- What a pattern cannot start with can be passed over when it is looked for. -/
theorem occursIn_skip {first : α} (pattern skipped rest : List α)
    (foreign : ∀ x ∈ skipped, x ≠ first) :
    occursIn (first :: pattern) (skipped ++ rest) = occursIn (first :: pattern) rest := by
  induction skipped with
  | nil => rfl
  | cons x skipped ih =>
    have here := foreign x List.mem_cons_self
    have later := ih fun y member => foreign y (List.mem_cons_of_mem _ member)
    rw [List.cons_append, occursIn_cons_eq, isPrefixOf_cons_of_ne _ _ here, Bool.false_or, later]

end Occurrences

/-- What does not hold an element cannot reach across it. -/
theorem infix_append_cons_iff {α : Type} {p u t : List α} {x : α} (some_ : p ≠ []) (other : x ∉ p) :
    p <:+: u ++ x :: t ↔ p <:+: u ∨ p <:+: t := by
  have notFirst : ∀ {q : List α}, q ⊆ p → q <+: x :: t → q = [] := by
    intro q part starts
    cases q with
    | nil => rfl
    | cons y q =>
      obtain ⟨rfl, -⟩ := List.cons_prefix_cons.mp starts
      exact absurd (part List.mem_cons_self) other
  constructor
  · intro h
    rcases List.infix_append_iff.mp h with before | behind | ⟨front, back, rfl, ends, starts⟩
    · exact Or.inl before
    · rcases List.infix_cons_iff.mp behind with starts | later
      · exact absurd (notFirst (List.Subset.refl p) starts) some_
      · exact Or.inr later
    · obtain rfl := notFirst (List.subset_append_right front back) starts
      rw [List.append_nil]
      exact Or.inl ends.isInfix
  · rintro (before | behind)
    · exact before.trans (List.prefix_append u _).isInfix
    · exact (List.infix_cons behind).trans (List.suffix_append u _).isInfix

/-! ## The first copy of a pattern -/

section FirstCopy

variable {α : Type} [BEq α] [LawfulBEq α]

/-- A text cannot be broken on a pattern that is not in it. -/
theorem breakOn_eq_none_iff {pattern s : List α} : breakOn pattern s = none ↔ ¬pattern <:+: s := by
  rw [breakOn, breakOnFrom_eq_none_iff, ← occursIn_iff_isInfix, Bool.not_eq_true]

/-- What is passed on the way to a copy of a pattern has none in it. -/
theorem breakOnFrom_passed {pattern passed s before after : List α} (some_ : pattern ≠ [])
    (h : breakOnFrom pattern passed s = some (before, after)) :
    ∃ front, before = passed.reverse ++ front ∧ s = front ++ (pattern ++ after) ∧
      ¬pattern <:+: front := by
  have empty : ¬pattern <:+: [] := by simpa using some_
  induction s generalizing passed with
  | nil => simp [breakOnFrom, some_] at h
  | cons x rest ih =>
    rw [breakOnFrom] at h
    cases begins : pattern.isPrefixOf? (x :: rest) with
    | some behind =>
      rw [begins] at h
      cases h
      exact ⟨[], by simp, (List.append_eq_of_isPrefixOf?_eq_some begins).symm, empty⟩
    | none =>
      rw [begins] at h
      obtain ⟨front, rfl, rfl, absent⟩ := ih h
      refine ⟨x :: front, by simp, rfl, ?_⟩
      intro inside
      rcases List.infix_cons_iff.mp inside with starts | later
      · -- A copy at the front of what is passed would have been found there.
        obtain ⟨more, same⟩ := starts
        have found : pattern.isPrefixOf? (x :: (front ++ (pattern ++ after))) =
            some (more ++ (pattern ++ after)) := by
          rw [List.isPrefixOf?_eq_some_iff_append_eq, ← List.append_assoc, same, List.cons_append]
        rw [begins] at found
        cases found
      · exact absent later

/-- A copy of a pattern is found if none stands before it, nor overlaps with it from the front. -/
theorem breakOnFrom_first {pattern before : List α} (absent : ¬pattern <:+: before ++ pattern.dropLast)
    (passed after : List α) :
    breakOnFrom pattern passed (before ++ (pattern ++ after)) = some (passed.reverse ++ before, after) := by
  have some_ : pattern ≠ [] := by
    rintro rfl
    exact absent List.nil_infix
  induction before generalizing passed with
  | nil =>
    obtain ⟨x, pattern, rfl⟩ := List.exists_cons_of_ne_nil some_
    have begins : (x :: pattern).isPrefixOf? (x :: (pattern ++ after)) = some after := by
      rw [List.isPrefixOf?_eq_some_iff_append_eq, List.cons_append]
    show breakOnFrom _ _ (x :: (pattern ++ after)) = _
    rw [breakOnFrom, begins]
    simp
  | cons x before ih =>
    have notYet : pattern.isPrefixOf? (x :: (before ++ (pattern ++ after))) = none := by
      cases begins : pattern.isPrefixOf? (x :: (before ++ (pattern ++ after))) with
      | none => rfl
      | some more =>
        -- A copy that starts here ends before the other one does.
        have whole : x :: before ++ pattern.dropLast <+: x :: (before ++ (pattern ++ after)) := by
          rw [List.cons_append, List.cons_prefix_cons, List.prefix_append_right_inj]
          exact ⟨rfl, (List.dropLast_prefix pattern).trans (List.prefix_append _ _)⟩
        have copy : pattern <+: x :: (before ++ (pattern ++ after)) :=
          ⟨more, List.append_eq_of_isPrefixOf?_eq_some begins⟩
        have short : pattern.length ≤ (x :: before ++ pattern.dropLast).length := by
          simp only [List.length_append, List.length_cons, List.length_dropLast]
          omega
        exact absurd (List.prefix_of_prefix_length_le copy whole short).isInfix absent
    rw [List.cons_append, breakOnFrom, notYet]
    have further := ih (fun inside => absent (List.infix_cons inside)) (x :: passed)
    simpa using further

variable {first : α} {pattern : List α}

/-- A copy of a pattern whose first element does not come back in it is found, if there is none
before it. -/
theorem breakOnFrom_append (once : first ∉ pattern) {before : List α}
    (absent : ¬first :: pattern <:+: before) (passed after : List α) :
    breakOnFrom (first :: pattern) passed (before ++ (first :: pattern ++ after)) =
      some (passed.reverse ++ before, after) := by
  refine breakOnFrom_first (fun inside => ?_) passed after
  have longer : ¬first :: pattern <:+: (first :: pattern).dropLast := fun whole => by
    have length := whole.length_le
    simp at length
  rcases List.infix_append_iff.mp inside with earlier | later | ⟨front, back, split, ends, starts⟩
  · exact absent earlier
  · exact longer later
  · -- The two copies would overlap, so the first element would come back.
    cases front with
    | nil =>
      rw [List.nil_append] at split
      exact longer (split ▸ starts.isInfix)
    | cons x front =>
      cases back with
      | nil =>
        rw [List.append_nil] at split
        exact absent (split ▸ ends.isInfix)
      | cons y back =>
        have again : y = first :=
          (List.cons_prefix_cons.mp (starts.trans (List.dropLast_prefix _))).1
        exact once (by simp [(List.cons.inj split).2, again])

/-- Where a pattern whose first element does not come back in it is cut off. -/
theorem breakOn_eq_some_iff (once : first ∉ pattern) {s before after : List α} :
    breakOn (first :: pattern) s = some (before, after) ↔
      s = before ++ (first :: pattern ++ after) ∧ ¬first :: pattern <:+: before := by
  constructor
  · intro h
    obtain ⟨front, rfl, split, absent⟩ := breakOnFrom_passed (List.cons_ne_nil _ _) h
    exact ⟨split, absent⟩
  · rintro ⟨rfl, absent⟩
    exact breakOnFrom_append once absent [] after

end FirstCopy

/-! ## Cutting at a separator -/

section Cutting

variable {α : Type}

/-- What is joined is a part of the whole. -/
theorem isInfix_intercalate {separator part : List α} {parts : List (List α)} (h : part ∈ parts) :
    part <:+: separator.intercalate parts := by
  induction parts with
  | nil => cases h
  | cons first rest ih =>
    cases rest with
    | nil =>
      obtain rfl := List.mem_singleton.mp h
      simp
    | cons next more =>
      rw [List.intercalate_cons_cons]
      rcases List.mem_cons.mp h with rfl | later
      · rw [List.append_assoc]
        exact (List.prefix_append _ _).isInfix
      · exact (ih later).trans (List.suffix_append _ _).isInfix

variable [BEq α]

/-- Cutting at a separator, given what has been read. -/
theorem splitOnFrom_eq (separator : α) (complete : List (List α)) (part s : List α) :
    splitOnFrom separator complete part s =
      complete.reverse ++ (s.splitOn separator).modifyHead (part.reverse ++ ·) := by
  induction s generalizing complete part with
  | nil => simp [splitOnFrom]
  | cons c rest ih =>
    rw [splitOnFrom, List.splitOn_cons_eq_if_modifyHead]
    split
    · rw [ih]
      cases rest.splitOn separator <;> simp
    · rw [ih]
      cases rest.splitOn separator <;> simp

/-- Splitting is the splitting of the library. -/
theorem splitOn_eq (separator : α) (s : List α) : splitOn separator s = s.splitOn separator := by
  rw [splitOn, splitOnFrom_eq]
  cases s.splitOn separator <;> simp

/-- What a text is split into is in the text. -/
theorem isInfix_of_mem_splitOn [LawfulBEq α] {separator : α} {part s : List α}
    (h : part ∈ s.splitOn separator) : part <:+: s := by
  have inside : part <:+: [separator].intercalate (s.splitOn separator) := isInfix_intercalate h
  rwa [List.intercalate_splitOn] at inside

end Cutting

/-! ## Reading bytes one character at a time -/

/-- What was decoded before stays in front. -/
theorem decodeFrom_eq (before : List Char) (bytes : List UInt8) :
    decodeFrom before bytes = before.reverse ++ decode bytes := by
  induction length : bytes.length using Nat.strong_induction_on generalizing before bytes with
  | _ n ih =>
    cases bytes with
    | nil => simp [decode, decodeFrom]
    | cons b bytes =>
      have shorter : (decodeChar b bytes).2.length < n := by
        rw [← length, List.length_cons]
        exact Nat.lt_succ_of_le (length_decodeChar_le b bytes)
      have whole := ih _ shorter ((decodeChar b bytes).1 :: before) (decodeChar b bytes).2 rfl
      have alone := ih _ shorter [(decodeChar b bytes).1] (decodeChar b bytes).2 rfl
      rw [decode, decodeFrom, decodeFrom, whole, alone]
      simp

/-- No bytes are decoded to no text. -/
theorem decode_nil : decode [] = [] := by
  rw [decode, decodeFrom, List.reverse_nil]

/-- The text of bytes is their first character and the text of the bytes after it. -/
theorem decode_cons (b : UInt8) (bytes : List UInt8) :
    decode (b :: bytes) = (decodeChar b bytes).1 :: decode (decodeChar b bytes).2 := by
  rw [decode, decodeFrom, decodeFrom_eq]
  rfl

/-- Whether a byte stands for a character by itself. -/
def IsAscii (b : UInt8) : Prop :=
  b.toNat < 128

/-- An ASCII byte is decoded to its character. -/
theorem decodeChar_of_isAscii {b : UInt8} (bytes : List UInt8) (h : IsAscii b) :
    decodeChar b bytes = (Char.ofNat b.toNat, bytes) := by
  have below : b < 0x80 := UInt8.lt_iff_toNat_lt.mpr h
  rw [decodeChar, if_pos below]

/-- The bytes after a lead byte that are read with it are not ASCII. -/
theorem readFollowing_skips {low high : UInt8} (code n : Nat) (bytes : List UInt8)
    (continues : 128 ≤ low.toNat) :
    ∃ skipped, bytes = skipped ++ (readFollowing low high code n bytes).2 ∧
      ∀ x ∈ skipped, ¬IsAscii x := by
  induction n generalizing low high code bytes with
  | zero => exact ⟨[], rfl, by simp⟩
  | succ n ih =>
    cases bytes with
    | nil => exact ⟨[], rfl, by simp⟩
    | cons b bytes =>
      rw [readFollowing]
      split
      next fits =>
        simp only [Bool.and_eq_true, decide_eq_true_eq] at fits
        have enough : low.toNat ≤ b.toNat := UInt8.le_iff_toNat_le.mp fits.1
        have step : 128 ≤ (0x80 : UInt8).toNat := by decide
        obtain ⟨skipped, split, foreign⟩ :=
          @ih 0x80 0xBF (code * 64 + (b.toNat - 0x80)) bytes step
        refine ⟨b :: skipped, by rw [List.cons_append, ← split], ?_⟩
        intro x member
        rcases List.mem_cons.mp member with rfl | later
        · unfold IsAscii
          omega
        · exact foreign x later
      · exact ⟨[], rfl, by simp⟩

/-- What the bytes that follow a lead byte add to its bits lies between what the smallest and the
largest of them add. -/
theorem readFollowing_bounds {low high : UInt8} {code n : Nat} {bytes : List UInt8} {found : Nat}
    (continues : 128 ≤ low.toNat) (h : (readFollowing low high code (n + 1) bytes).1 = some found) :
    (code * 64 + (low.toNat - 128)) * 64 ^ n ≤ found ∧
      found < (code * 64 + (high.toNat - 128) + 1) * 64 ^ n := by
  induction n generalizing low high code bytes with
  | zero =>
    cases bytes with
    | nil => cases h
    | cons b bytes =>
      rw [readFollowing] at h
      split at h
      next fits =>
        simp only [Bool.and_eq_true, decide_eq_true_eq, UInt8.le_iff_toNat_le] at fits
        rw [readFollowing] at h
        obtain rfl := Option.some.inj h
        omega
      · cases h
  | succ n ih =>
    cases bytes with
    | nil => cases h
    | cons b bytes =>
      rw [readFollowing] at h
      split at h
      next fits =>
        simp only [Bool.and_eq_true, decide_eq_true_eq, UInt8.le_iff_toNat_le] at fits
        have step : 128 ≤ (0x80 : UInt8).toNat := by decide
        obtain ⟨least, greatest⟩ := ih step h
        have smallest : (0x80 : UInt8).toNat = 128 := rfl
        have largest : (0xBF : UInt8).toNat = 191 := rfl
        rw [smallest] at least
        rw [largest] at greatest
        have power : 64 ^ (n + 1) = 64 * 64 ^ n := by ring
        constructor
        · calc (code * 64 + (low.toNat - 128)) * 64 ^ (n + 1)
              ≤ (code * 64 + (b.toNat - 128)) * 64 ^ (n + 1) := by gcongr; omega
            _ = ((code * 64 + (b.toNat - 128)) * 64 + (128 - 128)) * 64 ^ n := by rw [power]; ring
            _ ≤ found := least
        · calc found < ((code * 64 + (b.toNat - 128)) * 64 + (191 - 128) + 1) * 64 ^ n := greatest
            _ = (code * 64 + (b.toNat - 128) + 1) * 64 ^ (n + 1) := by rw [power]; ring
            _ ≤ (code * 64 + (high.toNat - 128) + 1) * 64 ^ (n + 1) := by gcongr; omega
      · cases h

/-- What a lead byte announces is a code point above those of ASCII, and no surrogate. -/
theorem lead_bounds {b : UInt8} {l : Lead} (h : lead? b = some l) :
    128 ≤ l.low.toNat ∧ ∃ n, l.following = n + 1 ∧
      ∀ found, (l.bits * 64 + (l.low.toNat - 128)) * 64 ^ n ≤ found →
        found < (l.bits * 64 + (l.high.toNat - 128) + 1) * 64 ^ n →
        128 ≤ found ∧ found.isValidChar := by
  unfold lead? at h
  simp only [UInt8.lt_iff_toNat_lt, ← UInt8.toNat_inj, UInt8.reduceToNat] at h
  split_ifs at h <;> cases h
  -- The ranges are those of sequences of two, of three and of four bytes.
  iterate 1
    · refine ⟨by simp, 0, rfl, fun found least greatest => ?_⟩
      simp only [UInt8.reduceToNat, Nat.isValidChar] at *
      omega
  iterate 3
    · refine ⟨by simp, 1, rfl, fun found least greatest => ?_⟩
      simp only [UInt8.reduceToNat, Nat.isValidChar] at *
      omega
  iterate 3
    · refine ⟨by simp, 2, rfl, fun found least greatest => ?_⟩
      simp only [UInt8.reduceToNat, Nat.isValidChar] at *
      omega

/-- A byte that is not ASCII starts a character that is not ASCII, and takes no byte with it that
is. -/
theorem decodeChar_of_not_isAscii {b : UInt8} (bytes : List UInt8) (h : ¬IsAscii b) :
    128 ≤ (decodeChar b bytes).1.toNat ∧
      ∃ skipped, bytes = skipped ++ (decodeChar b bytes).2 ∧ ∀ x ∈ skipped, ¬IsAscii x := by
  have above : ¬b < 0x80 := fun below => h (UInt8.lt_iff_toNat_lt.mp below)
  have replaced : 128 ≤ replacement.toNat := by decide
  unfold decodeChar
  rw [if_neg above]
  cases announced : lead? b with
  | none => exact ⟨replaced, [], rfl, by simp⟩
  | some l =>
    obtain ⟨continues, n, following, valid⟩ := lead_bounds announced
    dsimp only
    refine ⟨?_, readFollowing_skips l.bits l.following bytes continues⟩
    cases read : (readFollowing l.low l.high l.bits l.following bytes).1 with
    | none => exact replaced
    | some code =>
      rw [following] at read
      obtain ⟨least, greatest⟩ := readFollowing_bounds continues read
      obtain ⟨large, isChar⟩ := valid code least greatest
      rw [Option.map_some, Option.getD_some, Char.toNat_ofNat, if_pos isChar]
      exact large

/-! ## ASCII patterns -/

/-- The byte of an ASCII character. -/
def asciiByte (c : Char) : UInt8 :=
  UInt8.ofNat c.toNat

/-- Whether a pattern is made of ASCII characters. -/
def AsciiPattern (pattern : List Char) : Prop :=
  ∀ c ∈ pattern, c.toNat < 128

/-- The byte of an ASCII character has its number. -/
theorem toNat_asciiByte {c : Char} (h : c.toNat < 128) : (asciiByte c).toNat = c.toNat := by
  rw [asciiByte, UInt8.toNat_ofNat']
  omega

/-- The byte of an ASCII character is the one that is decoded to it. -/
theorem asciiByte_eq_iff {c : Char} {b : UInt8} (ascii : c.toNat < 128) (h : IsAscii b) :
    asciiByte c = b ↔ c = Char.ofNat b.toNat := by
  have valid : b.toNat.isValidChar := Or.inl (by unfold IsAscii at h; omega)
  constructor
  · rintro rfl
    rw [toNat_asciiByte ascii, Char.ofNat_toNat]
  · rintro rfl
    rw [asciiByte, Char.toNat_ofNat, if_pos valid, UInt8.ofNat_toNat]

/-- A pattern starts the bytes exactly if it starts their text. -/
theorem isPrefixOf_decode {pattern : List Char} (ascii : AsciiPattern pattern)
    (bytes : List UInt8) :
    (pattern.map asciiByte).isPrefixOf bytes = pattern.isPrefixOf (decode bytes) := by
  induction pattern generalizing bytes with
  | nil => simp
  | cons c pattern ih =>
    have small : c.toNat < 128 := ascii c List.mem_cons_self
    have later : AsciiPattern pattern := fun d member => ascii d (List.mem_cons_of_mem _ member)
    cases bytes with
    | nil => rw [decode_nil]; rfl
    | cons b bytes =>
      rw [decode_cons, List.map_cons]
      by_cases h : IsAscii b
      · have same : (asciiByte c == b) = (c == Char.ofNat b.toNat) := by
          rw [Bool.eq_iff_iff, beq_iff_eq, beq_iff_eq, asciiByte_eq_iff small h]
        rw [decodeChar_of_isAscii bytes h, List.isPrefixOf_cons_cons, List.isPrefixOf_cons_cons,
          same, ih later]
      · have large := (decodeChar_of_not_isAscii bytes h).1
        have byte : b ≠ asciiByte c := by
          rintro rfl
          rw [IsAscii, toNat_asciiByte small] at h
          exact h small
        have char : (decodeChar b bytes).1 ≠ c := by
          intro same
          rw [same] at large
          omega
        rw [isPrefixOf_cons_of_ne _ _ byte, isPrefixOf_cons_of_ne _ _ char]

/-- A pattern occurs in bytes exactly if it occurs in their text. -/
theorem occursIn_decode {first : Char} {pattern : List Char}
    (ascii : AsciiPattern (first :: pattern)) (bytes : List UInt8) :
    occursIn ((first :: pattern).map asciiByte) bytes =
      occursIn (first :: pattern) (decode bytes) := by
  induction length : bytes.length using Nat.strong_induction_on generalizing bytes with
  | _ n ih =>
    cases bytes with
    | nil => rw [decode_nil]; rfl
    | cons b bytes =>
      have start := isPrefixOf_decode ascii (b :: bytes)
      have shorter : (decodeChar b bytes).2.length < n := by
        rw [← length, List.length_cons]
        exact Nat.lt_succ_of_le (length_decodeChar_le b bytes)
      rw [decode_cons] at start ⊢
      rw [occursIn_cons_eq, occursIn_cons_eq, start, ← ih _ shorter _ rfl]
      congr 1
      by_cases h : IsAscii b
      · rw [decodeChar_of_isAscii bytes h]
      · -- The pattern cannot start at any of the bytes that are read with this one.
        obtain ⟨-, skipped, split, foreign⟩ := decodeChar_of_not_isAscii bytes h
        have passed : ∀ x ∈ skipped, x ≠ asciiByte first := by
          rintro x member rfl
          apply foreign _ member
          rw [IsAscii, toNat_asciiByte (ascii first List.mem_cons_self)]
          exact ascii first List.mem_cons_self
        conv_lhs => rw [split]
        exact occursIn_skip _ skipped _ passed

/-! ## Line breaks -/

/-- What was unified before stays in front. -/
theorem unifyBreaksFrom_eq (before s : List Char) :
    unifyBreaksFrom before s = before.reverse ++ unifyBreaks s := by
  -- The induction is on the rest of the text, for whatever is written by then.
  have all : ∀ (written s more : List Char),
      unifyBreaksFrom more s = more.reverse ++ unifyBreaksFrom [] s := by
    intro written s
    fun_induction unifyBreaksFrom written s with
    | case1 written => simp [unifyBreaksFrom]
    | case2 written rest ih =>
      intro more
      rw [unifyBreaksFrom, unifyBreaksFrom, ih ('\n' :: more), ih ['\n']]
      simp
    | case3 written rest alone ih =>
      intro more
      rw [unifyBreaksFrom, unifyBreaksFrom, ih ('\n' :: more), ih ['\n']]
      · simp
      all_goals exact alone
    | case4 written c rest notBreak notReturn ih =>
      intro more
      rw [unifyBreaksFrom, unifyBreaksFrom, ih (c :: more), ih [c]]
      · simp
      all_goals assumption
  exact all [] s before

/-- The first character of a text with unified breaks, unless that is empty, and what it is made
of: a break that was written in one or in two characters, or a character that is none. -/
theorem unifyBreaks_cases (s : List Char) :
    s = [] ∧ unifyBreaks s = [] ∨
    (∃ passed rest, s = passed ++ rest ∧ passed ≠ [] ∧ (∀ c ∈ passed, c = '\r' ∨ c = '\n') ∧
      unifyBreaks s = '\n' :: unifyBreaks rest) ∨
    ∃ c rest, s = c :: rest ∧ unifyBreaks s = c :: unifyBreaks rest := by
  cases s with
  | nil => exact Or.inl ⟨rfl, rfl⟩
  | cons c rest =>
    refine Or.inr ?_
    by_cases returns : c = '\r'
    · subst returns
      refine Or.inl ?_
      by_cases feeds : ∃ more, rest = '\n' :: more
      · obtain ⟨more, rfl⟩ := feeds
        refine ⟨['\r', '\n'], more, rfl, by simp, by simp, ?_⟩
        rw [unifyBreaks, unifyBreaksFrom, unifyBreaksFrom_eq]
        rfl
      · refine ⟨['\r'], rest, rfl, by simp, by simp, ?_⟩
        rw [unifyBreaks, unifyBreaksFrom, unifyBreaksFrom_eq]
        · rfl
        · exact fun more same => feeds ⟨more, same⟩
    · refine Or.inr ⟨c, rest, rfl, ?_⟩
      rw [unifyBreaks, unifyBreaksFrom, unifyBreaksFrom_eq]
      · rfl
      · exact fun more same => absurd same returns
      · exact returns

/-- Whether a pattern has no line break. -/
def BreakFree (pattern : List Char) : Prop :=
  ∀ c ∈ pattern, c ≠ '\r' ∧ c ≠ '\n'

/-- Unifying breaks does not matter for a pattern without breaks. -/
theorem isPrefixOf_unifyBreaks {pattern : List Char} (unbroken : BreakFree pattern)
    (s : List Char) : pattern.isPrefixOf (unifyBreaks s) = pattern.isPrefixOf s := by
  induction pattern generalizing s with
  | nil => simp
  | cons c pattern ih =>
    have later : BreakFree pattern := fun d member => unbroken d (List.mem_cons_of_mem _ member)
    obtain ⟨notReturn, notFeed⟩ := unbroken c List.mem_cons_self
    rcases unifyBreaks_cases s with ⟨rfl, same⟩ | ⟨passed, rest, rfl, some_, breaks, same⟩ |
      ⟨d, rest, rfl, same⟩
    · rw [same]
    · obtain ⟨first, more, rfl⟩ := List.exists_cons_of_ne_nil some_
      have differ : first ≠ c := by
        rintro rfl
        exact (breaks first List.mem_cons_self).elim notReturn notFeed
      rw [same, List.cons_append, isPrefixOf_cons_of_ne _ _ differ,
        isPrefixOf_cons_of_ne _ _ (Ne.symm notFeed)]
    · rw [same, List.isPrefixOf_cons_cons, List.isPrefixOf_cons_cons, ih later]

/-- A pattern without a line break occurs in a text exactly if it occurs once the breaks of the
text are unified. -/
theorem occursIn_unifyBreaks {first : Char} {pattern : List Char}
    (unbroken : BreakFree (first :: pattern)) (s : List Char) :
    occursIn (first :: pattern) (unifyBreaks s) = occursIn (first :: pattern) s := by
  obtain ⟨notReturn, notFeed⟩ := unbroken first List.mem_cons_self
  induction length : s.length using Nat.strong_induction_on generalizing s with
  | _ n ih =>
    have start := isPrefixOf_unifyBreaks unbroken s
    rcases unifyBreaks_cases s with ⟨rfl, same⟩ | ⟨passed, rest, rfl, some_, breaks, same⟩ |
      ⟨c, rest, rfl, same⟩
    · rw [same]
    · have foreign : ∀ x ∈ passed, x ≠ first := by
        rintro x member rfl
        exact (breaks x member).elim notReturn notFeed
      have shorter : rest.length < n := by
        have := List.length_pos_of_ne_nil some_
        rw [← length, List.length_append]
        omega
      rw [occursIn_skip _ passed rest foreign, same, occursIn_cons_eq,
        isPrefixOf_cons_of_ne _ _ (Ne.symm notFeed), Bool.false_or, ih _ shorter rest rfl]
    · have shorter : rest.length < n := by
        rw [← length, List.length_cons]
        omega
      rw [same] at start ⊢
      rw [occursIn_cons_eq, occursIn_cons_eq, start, ih _ shorter rest rfl]

/-- An ASCII pattern without a line break occurs in the bytes of a file exactly if it occurs in the
text of the file. -/
theorem occursIn_ofFile {first : Char} {pattern : List Char}
    (ascii : AsciiPattern (first :: pattern)) (unbroken : BreakFree (first :: pattern))
    (bytes : List UInt8) :
    occursIn ((first :: pattern).map asciiByte) bytes =
      occursIn (first :: pattern) (ofFile bytes).toList := by
  rw [ofFile, String.toList_ofList, occursIn_unifyBreaks unbroken, occursIn_decode ascii]

end DocGraph.Text
