import DocGraph.Sample.Choice
import Mathlib

/-!
# What is chosen

Whatever numbers the generator gives, as many elements are chosen as are asked for, and no position of
the list is chosen twice: `choose_subperm` and `length_choose`. Both ways of choosing give different
positions. A pool gets shorter by the element that is taken out of it, and a position that is drawn is
not among those drawn before, also if the generator is given up on.
-/

set_option autoImplicit false

namespace DocGraph.Generator

variable {α : Type}

/-! ## Drawing below a bound -/

/-- A number that is drawn below a bound is below it. -/
theorem drawBelow_lt {bound : Nat} (some_ : 0 < bound) (tries : Nat) (g : Generator) :
    (drawBelow bound tries g).1 < bound := by
  induction tries generalizing g with
  | zero => exact some_
  | succ tries ih =>
    rw [drawBelow]
    dsimp only
    split
    next small => exact small
    next => exact ih _

/-- A number below a bound is below it. -/
theorem below_lt {bound : Nat} (some_ : 0 < bound) (g : Generator) : (g.below bound).1 < bound := by
  rw [below, if_neg (by omega)]
  exact drawBelow_lt some_ _ g

/-! ## Taking out of a pool -/

/-- The last element takes the place of the one that is taken out. -/
theorem cons_set_dropLast_perm {pool : List α} {i : Nat} {x last : α} (found : pool[i]? = some x)
    (ends : pool.getLast? = some last) : (x :: (pool.set i last).dropLast).Perm pool := by
  obtain ⟨inside, rfl⟩ := List.getElem?_eq_some_iff.mp found
  have ends' : (pool.set i last).getLast? = some last := by
    rw [List.getLast?_eq_getElem?] at ends ⊢
    rw [List.length_set, List.getElem?_set]
    by_cases here : i = pool.length - 1
    · simp [← here, inside]
    · rw [if_neg here, ends]
  have split : (pool.set i last).dropLast ++ [last] = pool.set i last :=
    List.dropLast_append_getLast? last ends'
  have without : (last :: (pool.set i last).dropLast).Perm (last :: pool.eraseIdx i) := by
    have front := (List.perm_append_singleton last (pool.set i last).dropLast).symm
    rw [split] at front
    exact front.trans (List.set_perm_cons_eraseIdx inside last)
  exact ((List.perm_cons last).mp without |>.cons pool[i]).trans
    (List.getElem_cons_eraseIdx_perm inside)

/-- What is taken from a pool is a part of it, as long as was asked for. -/
theorem takeFrom_subperm {count : Nat} {pool : List α} (enough : count ≤ pool.length)
    (g : Generator) : (takeFrom count pool g).1.Subperm pool ∧
      (takeFrom count pool g).1.length = count := by
  induction count generalizing pool g with
  | zero => exact ⟨List.nil_subperm, rfl⟩
  | succ count ih =>
    have inside : (g.below pool.length).1 < pool.length := below_lt (by omega) g
    have some_ : pool ≠ [] := by
      rintro rfl
      simp at enough
    have found := List.getElem?_eq_getElem inside
    have ends := List.getLast?_eq_some_getLast some_
    have smaller := cons_set_dropLast_perm found ends
    have shorter : count ≤ ((pool.set (g.below pool.length).1 (pool.getLast some_)).dropLast).length := by
      rw [List.length_dropLast, List.length_set]
      omega
    obtain ⟨others, length⟩ := ih shorter (g.below pool.length).2
    rw [takeFrom]
    simp only [found, ends]
    exact ⟨((List.subperm_cons _).mpr others).trans smaller.subperm, by rw [List.length_cons, length]⟩

/-! ## Drawing what is new -/

/-- A new number is below the bound and was not taken before. -/
theorem drawNew_new {bound : Nat} {taken : List Nat} (fewer : taken.length < bound) (tries : Nat)
    (g : Generator) : (drawNew bound taken tries g).1 < bound ∧
      (drawNew bound taken tries g).1 ∉ taken := by
  induction tries generalizing g with
  | zero =>
    -- There are fewer taken than there are numbers, so one of them is new.
    obtain ⟨n, small, new⟩ : ∃ n ∈ List.range bound, n ∉ taken := by
      by_contra all
      push Not at all
      have most := (List.nodup_range.subperm all).length_le
      rw [List.length_range] at most
      omega
    rw [drawNew]
    cases found : (List.range bound).find? fun i => i ∉ taken with
    | none => exact absurd new (by simpa using List.find?_eq_none.mp found n small)
    | some m =>
      have fits := List.find?_some found
      exact ⟨List.mem_range.mp (List.mem_of_find?_eq_some found), by simpa using fits⟩
  | succ tries ih =>
    rw [drawNew]
    dsimp only
    split
    next => exact ih _
    next new => exact ⟨below_lt (by omega) g, new⟩

/-- Distinct numbers that are drawn are distinct, below the bound, and as many as was asked for. -/
theorem drawDistinct_nodup {bound count : Nat} {taken : List Nat}
    (enough : taken.length + count ≤ bound) (distinct : taken.Nodup) (small : ∀ n ∈ taken, n < bound)
    (g : Generator) : (drawDistinct bound count taken g).1.Nodup ∧
      (∀ n ∈ (drawDistinct bound count taken g).1, n < bound) ∧
      (drawDistinct bound count taken g).1.length = taken.length + count := by
  induction count generalizing taken g with
  | zero =>
    rw [drawDistinct]
    exact ⟨List.nodup_reverse.mpr distinct, fun n member => small n (List.mem_reverse.mp member),
      List.length_reverse⟩
  | succ count ih =>
    have fewer : taken.length < bound := by omega
    obtain ⟨below, new⟩ := drawNew_new fewer drawLimit g
    rw [drawDistinct]
    dsimp only
    have next := @ih ((drawNew bound taken drawLimit g).1 :: taken)
      (by rw [List.length_cons]; omega) (List.nodup_cons.mpr ⟨new, distinct⟩)
      (List.forall_mem_cons.mpr ⟨below, small⟩) (drawNew bound taken drawLimit g).2
    rw [List.length_cons] at next
    exact ⟨next.1, next.2.1, by omega⟩

/-! ## Choosing -/

/-- Positions are distinct ones in the list, as many as was asked for. -/
theorem positions_subperm {length count : Nat} (enough : count ≤ length) (g : Generator) :
    (g.positions length count).1.Subperm (List.range length) ∧
      (g.positions length count).1.length = count := by
  rw [positions]
  split
  · exact takeFrom_subperm (by rwa [List.length_range]) g
  · obtain ⟨distinct, small, length⟩ :=
      @drawDistinct_nodup length count [] (by simpa using enough) List.nodup_nil (by simp) g
    refine ⟨distinct.subperm fun n member => List.mem_range.mpr (small n member), ?_⟩
    rw [length, List.length_nil, Nat.zero_add]

/-- The elements at all positions of a list are the list. -/
theorem filterMap_getElem?_range (xs : List α) :
    (List.range xs.length).filterMap (fun i => xs[i]?) = xs := by
  induction xs using List.reverseRecOn with
  | nil => rfl
  | append_singleton xs x ih =>
    rw [List.length_append, List.length_singleton, List.range_succ, List.filterMap_append]
    have front : (List.range xs.length).filterMap (fun i => (xs ++ [x])[i]?) = xs := by
      refine (List.filterMap_congr fun i member => ?_).trans ih
      exact List.getElem?_append_left (List.mem_range.mp member)
    rw [front]
    simp

/-- No position is chosen twice. -/
theorem choose_subperm {xs : List α} {count : Nat} (enough : count ≤ xs.length) (g : Generator) :
    (g.choose xs count).1.Subperm xs := by
  obtain ⟨chosen, same, sub⟩ := (positions_subperm enough g).1
  have all := sub.filterMap fun i => xs[i]?
  rw [filterMap_getElem?_range] at all
  exact ⟨_, same.filterMap _, all⟩

/-- As many elements are chosen as are asked for. -/
theorem length_choose {xs : List α} {count : Nat} (enough : count ≤ xs.length) (g : Generator) :
    (g.choose xs count).1.length = count := by
  obtain ⟨chosen, length⟩ := positions_subperm enough g
  have inside : ∀ i ∈ (g.positions xs.length count).1, (xs[i]?).isSome = true := by
    intro i member
    have small := List.mem_range.mp (chosen.subset member)
    simp [small]
  exact (List.filterMap_length_eq_length.mpr inside).trans length

end DocGraph.Generator
