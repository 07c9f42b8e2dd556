import DocGraph.Proofs.Fallible
import DocGraph.Settings
import Mathlib

/-!
# Settings below zero

Nothing keeps a setting that stands for a size or a number of workers from being negative. It is below
zero exactly if what it is taken from says so: the variable of the environment has a minus in front of a
number other than zero, or there is no such variable and the table has such a text, a number below zero,
or one with a point that is not above minus one, since what stands behind the point is cut off.
-/

set_option autoImplicit false

namespace DocGraph

/-- A text is a minus and a number other than zero, but for white space around them. -/
def IsBelowZero (text : String) : Prop :=
  ∃ rest n, Text.trimWhiteSpace text.toList = '-' :: rest ∧ Number.readNatural rest = .ok n ∧ 0 < n

/-- A value stands for a whole number below zero. -/
def Value.StandsBelowZero : Value → Prop
  | .text s => IsBelowZero s
  | .integer n => n < 0
  | .decimal (.finite x) => x ≤ -1
  | _ => False

/-- What a setting is taken from stands for a whole number below zero. -/
def SettingSources.SetsBelowZero (s : SettingSources) (name key : String) : Prop :=
  match s.env.get? name with
  | some text => IsBelowZero text
  | none => ∃ entries value, s.table.bind Value.entries = .ok entries ∧
      entries.lookup key = some value ∧ value.StandsBelowZero

variable {text : String} {n : Int}

/-- A text that is read as a number below zero is a minus and a number other than zero. -/
theorem readInteger_lt_zero_iff (h : Number.readInteger text = .ok n) :
    n < 0 ↔ IsBelowZero text := by
  unfold Number.readInteger at h
  split at h
  next rest sign =>
    obtain ⟨m, -, rfl⟩ := map_eq_ok_iff.mp h
    have other : ¬IsBelowZero text := by
      rintro ⟨_, _, minus, -⟩
      cases sign.symm.trans minus
    exact iff_of_false (by simp) other
  next rest sign =>
    obtain ⟨_, whole, rfl⟩ := map_eq_ok_iff.mp h
    obtain ⟨m, read, same⟩ := bind_eq_ok_iff.mp whole
    cases same
    constructor
    · intro below
      exact ⟨rest, m, sign, read, by omega⟩
    · rintro ⟨rest', m', minus, read', some_⟩
      obtain rfl : rest = rest' := (List.cons.inj (sign.symm.trans minus)).2
      obtain rfl : m = m' := Except.ok.inj (read.symm.trans read')
      omega
  next noPlus noMinus =>
    obtain ⟨m, -, rfl⟩ := map_eq_ok_iff.mp h
    have other : ¬IsBelowZero text := by
      rintro ⟨rest, _, minus, -⟩
      exact noMinus rest minus
    exact iff_of_false (by simp) other

/-- The same holds of a text that is read as a whole number. -/
theorem wholeNumber_lt_zero_iff (h : wholeNumber text = .ok n) : n < 0 ↔ IsBelowZero text := by
  refine readInteger_lt_zero_iff ?_
  unfold wholeNumber readWhole at h
  split at h
  next m read =>
    cases h
    exact read
  · cases h
  · cases h

/-- The whole part of a number is below zero if the number is at most minus one. -/
theorem wholePart_lt_zero_iff {x : ℚ} (h : wholePart (.finite x) = .ok n) : n < 0 ↔ x ≤ -1 := by
  cases h
  split
  next below =>
    have cut := @Rat.ceil_le_iff x (-1)
    push_cast at cut
    rw [← cut]
    omega
  next above =>
    have cut := @Rat.le_floor_iff 0 x
    push_cast at cut
    have floor : 0 ≤ x.floor := cut.mpr (le_of_not_gt above)
    exact iff_of_false (by omega) (by linarith)

/-- The number of a value is below zero if the value stands for one. -/
theorem numberOf_lt_zero_iff {value : Value} (h : numberOf value = .ok n) :
    n < 0 ↔ value.StandsBelowZero := by
  cases value with
  | text s => exact wholeNumber_lt_zero_iff h
  | integer m =>
    cases h
    rfl
  | switch on =>
    cases h
    cases on
    · exact iff_of_false (by decide) not_false
    · exact iff_of_false (by decide) not_false
  | decimal x =>
    cases x with
    | finite x =>
      refine wholePart_lt_zero_iff ?_
      cases h
      rfl
    | negativeZero =>
      cases h
      exact iff_of_false (by decide) not_false
    | infinite negative => cases h
    | undefined => cases h
  | nothing => cases h
  | list items => cases h
  | table entries => cases h

/-- A setting whose fixed value is not below zero is so exactly if what it is taken from is. -/
theorem SettingSources.setting_lt_zero_iff {s : SettingSources} {name key : String} {fallback : Int}
    (nonneg : 0 ≤ fallback) (h : s.setting name key wholeNumber numberOf fallback = .ok n) :
    n < 0 ↔ s.SetsBelowZero name key := by
  unfold setting at h
  unfold SetsBelowZero
  cases given : s.env.get? name with
  | some text =>
    rw [given] at h
    exact wholeNumber_lt_zero_iff h
  | none =>
    rw [given] at h
    dsimp only at h
    split at h
    · cases h
    next entries read =>
      -- What is missing from the table, and what is there without a value, leaves the fixed value.
      have fixed : entries.lookup key = none ∨ entries.lookup key = some .nothing →
          ¬∃ entries value, s.table.bind Value.entries = .ok entries ∧
            entries.lookup key = some value ∧ value.StandsBelowZero := by
        rintro idle ⟨entries', value, read', found, below⟩
        obtain rfl : entries = entries' := Except.ok.inj (read.symm.trans read')
        rcases idle with none_ | nothing
        · cases none_.symm.trans found
        · cases nothing.symm.trans found
          exact below
      split at h
      next none_ =>
        cases h
        exact iff_of_false (by omega) (fixed (Or.inl none_))
      next nothing =>
        cases h
        exact iff_of_false (by omega) (fixed (Or.inr nothing))
      next value _ found =>
        rw [numberOf_lt_zero_iff h]
        constructor
        · intro below
          exact ⟨entries, value, read, found, below⟩
        · rintro ⟨entries', value', read', found', below⟩
          obtain rfl : entries = entries' := Except.ok.inj (read.symm.trans read')
          obtain rfl : value = value' := Option.some.inj (found.symm.trans found')
          exact below

end DocGraph
