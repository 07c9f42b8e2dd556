import DocGraph.Text.Alphanumeric
import DocGraph.Text.Blank
import DocGraph.Text.Lines

/-!
# Blanks and line breaks

Every line break is a blank, and no letter or digit is one. Trimming leaves alone what neither starts
nor ends with a blank.
-/

set_option autoImplicit false

namespace DocGraph.Text

/-! ## Which characters they are -/

/-- The text is all on one line. -/
def Unbroken (s : List Char) : Prop :=
  ∀ c ∈ s, isLineBreak c = false

instance (s : List Char) : Decidable (Unbroken s) :=
  List.decidableBAll _ s

/-- Two texts are on one line if each of them is. -/
theorem unbroken_append {s t : List Char} : Unbroken (s ++ t) ↔ Unbroken s ∧ Unbroken t :=
  List.forall_mem_append

/-- A line break is blank. -/
theorem isBlank_of_isLineBreak {c : Char} (h : isLineBreak c = true) : isBlank c = true := by
  simp only [isLineBreak, List.mem_cons, List.not_mem_nil, or_false, decide_eq_true_eq] at h
  rcases h with rfl | rfl | rfl | rfl | rfl | rfl | rfl | rfl | rfl | rfl <;> decide

/-- What is not blank breaks no line. -/
theorem not_isLineBreak_of_not_isBlank {c : Char} (h : isBlank c = false) :
    isLineBreak c = false := by
  cases broken : isLineBreak c with
  | false => rfl
  | true => exact absurd (isBlank_of_isLineBreak broken) (by simp [h])

/-- The two tables have no code point in common. -/
theorem blankRanges_alphanumericRanges :
    ∀ r ∈ blankRanges, ∀ r' ∈ alphanumericRanges, r.last < r'.first ∨ r'.last < r.first := by
  decide +kernel

/-- Letters and digits of ASCII are between the digit zero and the end of ASCII. -/
theorem toNat_of_isAlphanum {c : Char} (h : c.isAlphanum = true) :
    0x30 ≤ c.toNat ∧ c.toNat < 0x80 := by
  delta Char.isAlphanum Char.isAlpha Char.isUpper Char.isLower Char.isDigit at h
  simp only [Bool.or_eq_true, Bool.and_eq_true, decide_eq_true_eq, ge_iff_le,
    UInt32.le_iff_toNat_le] at h
  have same : c.val.toNat = c.toNat := rfl
  have lastUpper : 'Z'.val.toNat = 0x5A := rfl
  have firstUpper : 'A'.val.toNat = 0x41 := rfl
  have lastLower : 'z'.val.toNat = 0x7A := rfl
  have firstLower : 'a'.val.toNat = 0x61 := rfl
  have firstDigit : '0'.val.toNat = 0x30 := rfl
  have lastDigit : '9'.val.toNat = 0x39 := rfl
  omega

/-- Letters and digits of ASCII are not blank. -/
theorem not_isBlank_of_isAlphanum {c : Char} (h : c.isAlphanum = true) : isBlank c = false := by
  have between := toNat_of_isAlphanum h
  cases blank : isBlank c with
  | false => rfl
  | true =>
    simp only [isBlank, inRanges, blankRanges, List.any_cons, List.any_nil, Bool.or_false,
      Bool.or_eq_true, Bool.and_eq_true, decide_eq_true_eq] at blank
    omega

/-- Letters and digits are not blank. -/
theorem not_isBlank_of_isAlphanumeric {c : Char} (h : isAlphanumeric c = true) :
    isBlank c = false := by
  rw [isAlphanumeric] at h
  split at h
  · exact not_isBlank_of_isAlphanum h
  · cases blank : isBlank c with
    | false => rfl
    | true =>
      obtain ⟨r, known, inside⟩ := List.any_eq_true.mp blank
      obtain ⟨r', known', inside'⟩ := List.any_eq_true.mp h
      simp only [Bool.and_eq_true, decide_eq_true_eq] at inside inside'
      have apart := blankRanges_alphanumericRanges r known r' known'
      omega

/-! ## Trimming -/

/-- Blanks in front of a text go. -/
theorem trimFront_append {a : List Char} (h : ∀ c ∈ a, isBlank c = true) (s : List Char) :
    trimFront (a ++ s) = trimFront s :=
  List.dropWhile_append_of_pos h

/-- A text that does not begin with a blank keeps its front. -/
theorem trimFront_of_not_isBlank {c : Char} (h : isBlank c = false) (s : List Char) :
    trimFront (c :: s) = c :: s := by
  rw [trimFront, List.dropWhile_cons_of_neg (by simp [h])]

/-- Of blanks alone nothing is left. -/
theorem trim_of_blank {s : List Char} (h : ∀ c ∈ s, isBlank c = true) : trim s = [] := by
  have front : trimFront s = [] := by
    rw [← List.append_nil s, trimFront_append h, trimFront, List.dropWhile_nil]
  rw [trim, front]
  rfl

/-- What ends with a character that is not blank is kept when the back is trimmed. -/
theorem trimBack_append (a : List Char) {c : Char} (h : isBlank c = false) (s : List Char) :
    trimBack (a ++ c :: s) = a ++ c :: trimBack s := by
  have kept : (c :: a.reverse).dropWhile isBlank = c :: a.reverse :=
    trimFront_of_not_isBlank h a.reverse
  have turned : (a ++ c :: s).reverse = s.reverse ++ c :: a.reverse := by simp
  unfold trimBack
  rw [turned, trimFront, List.dropWhile_append, kept]
  split
  · rename_i blank
    have none_ : trimFront s.reverse = [] := List.isEmpty_iff.mp blank
    simp [none_]
  · simp [trimFront]

/-- What is left without the blanks at the end is the front of the text. -/
theorem trimBack_isPrefix (s : List Char) : trimBack s <+: s := by
  have back := List.reverse_prefix.mpr (List.dropWhile_suffix isBlank (l := s.reverse))
  rwa [List.reverse_reverse] at back

/-- A text that neither starts nor ends with a blank is left as it is. -/
theorem trim_of_ends {s : List Char} (first : ∀ c ∈ s.head?, isBlank c = false)
    (last : ∀ c ∈ s.getLast?, isBlank c = false) : trim s = s := by
  cases s with
  | nil => rfl
  | cons c rest =>
    rw [trim, trimFront_of_not_isBlank (first c rfl)]
    cases back : (c :: rest).getLast? with
    | none => simp at back
    | some d =>
      obtain ⟨front, split⟩ := List.getLast?_eq_some_iff.mp back
      rw [split, trimBack_append front (last d back) []]
      rfl

end DocGraph.Text
