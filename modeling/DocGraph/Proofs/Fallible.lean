/-!
# Computations that may fail

What it takes for a computation with an error to give a value, and for it to give an error, if it is
put together from others: one after the other, with its value or its error changed, or the same for
every member of a list.

Two computations keep step if both give a value or both give an error, and these are related: `InStep`.
What is put together from computations that keep step does so as well.
-/

set_option autoImplicit false

namespace DocGraph

variable {ε ε' α β : Type} {x : Except ε α} {e : ε}

/-- A value comes of one computation after the other if each gives one. -/
theorem bind_eq_ok_iff {f : α → Except ε β} {b : β} :
    (x >>= f) = .ok b ↔ ∃ a, x = .ok a ∧ f a = .ok b := by
  cases x <;> simp [bind, Except.bind]

/-- One of two computations after each other gives the error. -/
theorem bind_eq_error_iff {f : α → Except ε β} :
    (x >>= f) = .error e ↔ x = .error e ∨ ∃ a, x = .ok a ∧ f a = .error e := by
  cases x <;> simp [bind, Except.bind]

/-- A changed value comes of a value. -/
theorem map_eq_ok_iff {f : α → β} {b : β} : x.map f = .ok b ↔ ∃ a, x = .ok a ∧ f a = b := by
  cases x <;> simp [Except.map]

/-- To change the value leaves the error. -/
theorem map_eq_error_iff {f : α → β} : x.map f = .error e ↔ x = .error e := by
  cases x <;> simp [Except.map]

/-- To change the error leaves the value. -/
theorem mapError_eq_ok_iff {f : ε → ε'} {a : α} : x.mapError f = .ok a ↔ x = .ok a := by
  cases x with
  | error fault => exact iff_of_false nofun nofun
  | ok b =>
    constructor <;>
    · intro h
      cases h
      rfl

/-- If doing something with each element of a list fails, it fails so with one of them. -/
theorem exists_of_mapM_error {f : α → Except ε β} {xs : List α} (h : xs.mapM f = .error e) :
    ∃ x ∈ xs, f x = .error e := by
  induction xs with
  | nil => cases h
  | cons x rest ih =>
    rw [List.mapM_cons] at h
    rcases bind_eq_error_iff.mp h with first | ⟨y, -, h⟩
    · exact ⟨x, List.mem_cons_self, first⟩
    · rcases bind_eq_error_iff.mp h with later | ⟨ys, -, impossible⟩
      · obtain ⟨x', member, fails⟩ := ih later
        exact ⟨x', List.mem_cons_of_mem _ member, fails⟩
      · cases impossible

/-- Both computations give a value or both give an error, and what they give is related. -/
def InStep (E : ε → ε' → Prop) (R : α → β → Prop) : Except ε α → Except ε' β → Prop
  | .ok a, .ok b => R a b
  | .error e, .error e' => E e e'
  | _, _ => False

/-- One after the other, computations keep step. -/
theorem InStep.bind {E : ε → ε' → Prop} {R : α → β → Prop} {γ δ : Type} {S : γ → δ → Prop}
    {y : Except ε' β} {f : α → Except ε γ} {g : β → Except ε' δ} (h : InStep E R x y)
    (next : ∀ a b, R a b → InStep E S (f a) (g b)) : InStep E S (x >>= f) (y >>= g) := by
  cases x with
  | error e =>
    cases y with
    | error e' => exact h
    | ok b => cases h
  | ok a =>
    cases y with
    | error e' => cases h
    | ok b => exact next a b h

end DocGraph
