import Mathlib.Data.List.Nodup
import Mathlib.Data.List.Perm.Basic
import Mathlib.Data.String.Basic

/-!
# Sorting by a text

The entries of a directory are dealt with in the order of names, and what workers have found is put
in the order of paths. Sorting by a text is stable, it does not matter for it how things were ordered
before if the text tells them apart, and what is sorted then ascends strictly.
-/

set_option autoImplicit false

namespace DocGraph

variable {α : Type} (key : α → String)

/-- Not being greater by key is transitive. -/
theorem key_le_trans (a b c : α) (first : (!decide (key b < key a)) = true)
    (second : (!decide (key c < key b)) = true) : (!decide (key c < key a)) = true := by
  simp only [Bool.not_eq_true', decide_eq_false_iff_not, not_lt] at first second ⊢
  exact first.trans second

/-- Of two elements one is not greater than the other by key. -/
theorem key_le_total (a b : α) :
    (!decide (key b < key a) || !decide (key a < key b)) = true := by
  rcases le_total (key a) (key b) with h | h
  · simp [not_lt.mpr h]
  · simp [not_lt.mpr h]

/-- What is sorted by a text ascends by it. -/
theorem mergeSort_key_pairwise (xs : List α) :
    (xs.mergeSort fun a b => !decide (key b < key a)).Pairwise fun a b => key a ≤ key b := by
  have sorted := List.pairwise_mergeSort (key_le_trans key) (key_le_total key) xs
  refine sorted.imp fun {a b} h => ?_
  rwa [Bool.not_eq_true', decide_eq_false_iff_not, not_lt] at h

/-- How things were ordered before does not matter once they are sorted by a text that tells them
apart. -/
theorem mergeSort_key_eq_of_perm {first second : List α} (h : first.Perm second)
    (apart : ∀ a ∈ first, ∀ b ∈ first, key a = key b → a = b) :
    (first.mergeSort fun a b => !decide (key b < key a)) =
      second.mergeSort fun a b => !decide (key b < key a) := by
  have same : (first.mergeSort fun a b => !decide (key b < key a)).Perm
      (second.mergeSort fun a b => !decide (key b < key a)) :=
    (List.mergeSort_perm first _).trans (h.trans (List.mergeSort_perm second _).symm)
  refine same.eq_of_pairwise ?_ (mergeSort_key_pairwise key first)
    (mergeSort_key_pairwise key second)
  intro a b left right le ge
  have a_mem : a ∈ first := List.mem_mergeSort.mp left
  have b_mem : b ∈ first := h.mem_iff.mpr (List.mem_mergeSort.mp right)
  exact apart a a_mem b b_mem (le_antisymm le ge)

/-- In a list that ascends, what is smaller than an element is what stands in front of it. -/
theorem filter_below_key {before after : List α} {x : α}
    (smaller : ∀ b ∈ before, (!!decide (key b < key x)) = true)
    (ascends : (before ++ x :: after).Pairwise fun a b => key a ≤ key b) :
    (before ++ after).filter (fun b => key b < key x) = before := by
  have greater := (List.pairwise_cons.mp (List.pairwise_append.mp ascends).2.1).1
  have none_ : after.filter (fun b => key b < key x) = [] := by
    refine List.filter_eq_nil_iff.mpr fun b member => ?_
    rw [decide_eq_true_eq, not_lt]
    exact greater b member
  have all : before.filter (fun b => key b < key x) = before := by
    refine List.filter_eq_self.mpr fun b member => ?_
    rw [← Bool.not_not (decide (key b < key x))]
    exact smaller b member
  rw [List.filter_append, all, none_, List.append_nil]

/-- Sorting by a text is stable, so it does not matter whether some things are left out before or
afterwards. -/
theorem filter_mergeSort_key (keep : α → Bool) (xs : List α) :
    (xs.mergeSort fun a b => !decide (key b < key a)).filter keep =
      (xs.filter keep).mergeSort fun a b => !decide (key b < key a) := by
  induction xs with
  | nil => simp
  | cons x rest ih =>
    obtain ⟨before, after, whole, others, smaller⟩ :=
      List.mergeSort_cons (key_le_trans key) (key_le_total key) x rest
    rw [others, List.filter_append] at ih
    by_cases kept : keep x = true
    · obtain ⟨first, second, wholeKept, othersKept, smallerKept⟩ :=
        List.mergeSort_cons (key_le_trans key) (key_le_total key) x (rest.filter keep)
      have ascends := (mergeSort_key_pairwise key (x :: rest)).filter keep
      have ascendsKept := mergeSort_key_pairwise key (x :: rest.filter keep)
      rw [whole, List.filter_append, List.filter_cons, if_pos kept] at ascends
      rw [wholeKept] at ascendsKept
      rw [othersKept] at ih
      -- What stands in front of the new element is in both lists what is smaller.
      have front : before.filter keep = first := by
        rw [← filter_below_key key smallerKept ascendsKept, ← ih]
        exact (filter_below_key key
          (fun b member => smaller b (List.mem_filter.mp member).1) ascends).symm
      rw [front] at ih
      rw [List.filter_cons, if_pos kept, whole, wholeKept, List.filter_append, List.filter_cons,
        if_pos kept, front, List.append_cancel_left ih]
    · rw [List.filter_cons, if_neg kept, whole, List.filter_append, List.filter_cons, if_neg kept]
      exact ih

/-- What is sorted by a text that tells things apart ascends strictly by it. -/
theorem mergeSort_key_strict {xs : List α} (distinct : (xs.map key).Nodup) :
    (xs.mergeSort fun a b => !decide (key b < key a)).Pairwise fun a b => key a < key b := by
  have weak := mergeSort_key_pairwise key xs
  have differ : (xs.mergeSort fun a b => !decide (key b < key a)).Pairwise
      fun a b => key a ≠ key b := by
    have same := (List.mergeSort_perm xs fun a b => !decide (key b < key a)).map key
    exact List.pairwise_map.mp (same.nodup_iff.mpr distinct)
  exact (weak.and differ).imp fun both => lt_of_le_of_ne both.1 both.2

end DocGraph
