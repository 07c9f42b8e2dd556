/-!
# Totals

The sum of a list of natural numbers, and how it follows the list: one entry more, two lists in a
row, and one entry replaced by another.
-/

set_option autoImplicit false

namespace DocGraph.Number

/-- The sum of numbers. -/
def total (xs : List Nat) : Nat :=
  xs.foldr (· + ·) 0

/-- No numbers make nothing. -/
@[simp] theorem total_nil : total [] = 0 := rfl

/-- A number in front is added. -/
@[simp] theorem total_cons (x : Nat) (xs : List Nat) : total (x :: xs) = x + total xs := rfl

/-- Two lists make the sum of what each makes. -/
theorem total_append (xs ys : List Nat) : total (xs ++ ys) = total xs + total ys := by
  induction xs with
  | nil => simp
  | cons x xs ih =>
    rw [List.cons_append, total_cons, total_cons, ih]
    omega

/-- Setting an entry of a list changes the sum by the difference at the entry. -/
theorem total_set (xs : List Nat) (i old new : Nat) (h : xs[i]? = some old) :
    total (xs.set i new) + old = total xs + new := by
  induction xs generalizing i with
  | nil => simp at h
  | cons x xs ih =>
    cases i with
    | zero =>
      simp only [List.getElem?_cons_zero, Option.some.injEq] at h
      subst h
      rw [List.set_cons_zero, total_cons, total_cons]
      omega
    | succ i =>
      have := ih i (by simpa using h)
      rw [List.set_cons_succ, total_cons, total_cons]
      omega

end DocGraph.Number
