import Mathlib.Data.List.Nodup

/-!
# Tables by key

Tables are lists of keys with what is under them, each key once. What is looked up under a key is
an entry of the table, and the other way round.

What is under a key can make place for something that depends on it; a key that is new comes last.
`alter` does this for any table, and the ways in which values, modules, counts and entries of
directories are put under keys are cases of it. `without` takes a key away.
-/

set_option autoImplicit false

namespace DocGraph

variable {α : Type} {table : List (String × α)} {key : String}

/-- What a table has under a key is one of its entries. -/
theorem mem_of_lookup {a : α} (h : table.lookup key = some a) : (key, a) ∈ table := by
  obtain ⟨before, after, rfl, -⟩ := List.lookup_eq_some_iff.mp h
  simp

/-- A table with different keys has each of its entries under its key. -/
theorem lookup_of_mem {a : α} (distinct : (table.map Prod.fst).Nodup) (h : (key, a) ∈ table) :
    table.lookup key = some a := by
  obtain ⟨before, after, rfl⟩ := List.append_of_mem h
  refine List.lookup_eq_some_iff.mpr ⟨before, after, rfl, fun e member => ?_⟩
  have fresh : key ∉ before.map Prod.fst := by
    intro again
    rw [List.map_append, List.map_cons] at distinct
    exact (List.nodup_append.mp distinct).2.2 key again key List.mem_cons_self rfl
  have differ : e.1 ≠ key := fun same => fresh (same ▸ List.mem_map_of_mem member)
  simpa using Ne.symm differ

/-- What is under a key when everything was changed, depending on its key. -/
theorem lookup_map {β : Type} (f : String → α → β) (table : List (String × α)) (key : String) :
    (table.map fun e => (e.1, f e.1 e.2)).lookup key = (table.lookup key).map (f key) := by
  induction table with
  | nil => rfl
  | cons e rest ih =>
    rw [List.map_cons, List.lookup_cons, List.lookup_cons, ih]
    by_cases same : key = e.1
    · simp [same]
    · have differ : (key == e.1) = false := by simpa using same
      rw [differ]

/-! ## Changing what is under a key -/

/-- Change what is under a key, which is put at the end if it is new. -/
def alter (key : String) (f : Option α → α) : List (String × α) → List (String × α)
  | [] => [(key, f none)]
  | (k, a) :: rest => if k = key then (k, f (some a)) :: rest else (k, a) :: alter key f rest

/-- Only what is under the key changes. -/
theorem lookup_alter (key : String) (f : Option α → α) (table : List (String × α))
    (other : String) :
    (alter key f table).lookup other =
      if other = key then some (f (table.lookup key)) else table.lookup other := by
  induction table with
  | nil =>
    rw [alter, List.lookup_cons]
    by_cases same : other = key
    · simp [same]
    · have differ : (other == key) = false := by simpa using same
      simp [differ, same]
  | cons e rest ih =>
    obtain ⟨k, a⟩ := e
    rw [alter]
    by_cases here : k = key
    · rw [if_pos here, List.lookup_cons]
      by_cases same : other = k
      · simp [same, here]
      · have differ : (other == k) = false := by simpa using same
        simp [List.lookup_cons, differ, here ▸ same]
    · have elsewhere : (key == k) = false := by simpa using Ne.symm here
      rw [if_neg here, List.lookup_cons, List.lookup_cons, List.lookup_cons, elsewhere, ih]
      by_cases same : other = k
      · simp [same, here]
      · have differ : (other == k) = false := by simpa using same
        rw [differ]

/-- An entry afterwards is one from before or the one of the key, which may depend on one from
before. -/
theorem mem_alter {f : Option α → α} {e : String × α} (h : e ∈ alter key f table) :
    e ∈ table ∨ ∃ old, e = (key, f old) ∧ ∀ a, old = some a → (key, a) ∈ table := by
  induction table with
  | nil =>
    refine Or.inr ⟨none, List.mem_singleton.mp h, ?_⟩
    intro a impossible
    cases impossible
  | cons first rest ih =>
    obtain ⟨k, a⟩ := first
    rw [alter] at h
    by_cases here : k = key
    · rw [if_pos here] at h
      rcases List.mem_cons.mp h with rfl | later
      · refine Or.inr ⟨some a, by rw [here], ?_⟩
        intro b was
        cases was
        exact here ▸ List.mem_cons_self
      · exact Or.inl (List.mem_cons_of_mem _ later)
    · rw [if_neg here] at h
      rcases List.mem_cons.mp h with rfl | later
      · exact Or.inl List.mem_cons_self
      · rcases ih later with old | ⟨old, same, listed⟩
        · exact Or.inl (List.mem_cons_of_mem _ old)
        · exact Or.inr ⟨old, same, fun b was => List.mem_cons_of_mem _ (listed b was)⟩

/-- Keys that differ still do. -/
theorem nodup_keys_alter (key : String) (f : Option α → α)
    (distinct : (table.map Prod.fst).Nodup) : ((alter key f table).map Prod.fst).Nodup := by
  induction table with
  | nil => exact List.nodup_singleton key
  | cons first rest ih =>
    obtain ⟨k, a⟩ := first
    obtain ⟨fresh, distinctRest⟩ := List.nodup_cons.mp distinct
    rw [alter]
    by_cases here : k = key
    · rw [if_pos here]
      exact distinct
    · rw [if_neg here]
      refine List.nodup_cons.mpr ⟨fun again => ?_, ih distinctRest⟩
      obtain ⟨e, member, same⟩ := List.mem_map.mp again
      rcases mem_alter member with old | ⟨old, rfl, -⟩
      · exact fresh (same ▸ List.mem_map_of_mem old)
      · exact here same.symm

/-- A new key is put at the end. -/
theorem alter_of_not_mem (f : Option α → α) (fresh : key ∉ table.map Prod.fst) :
    alter key f table = table ++ [(key, f none)] := by
  induction table with
  | nil => rfl
  | cons e rest ih =>
    obtain ⟨differ, later⟩ := List.ne_and_not_mem_of_not_mem_cons fresh
    rw [alter, if_neg (Ne.symm differ), ih later, List.cons_append]

/-! ## Taking a key away -/

/-- What is left of a table without a key. -/
def without (key : String) (table : List (String × α)) : List (String × α) :=
  table.filter fun e => e.1 ≠ key

/-- An entry with the key goes. -/
theorem without_cons_self (a : α) (rest : List (String × α)) :
    without key ((key, a) :: rest) = without key rest := by
  simp [without]

/-- An entry with another key stays. -/
theorem without_cons_of_ne {e : String × α} (rest : List (String × α)) (h : e.1 ≠ key) :
    without key (e :: rest) = e :: without key rest := by
  simp [without, h]

/-- A table is left as it is without a key that it does not have. -/
theorem without_of_not_mem (fresh : key ∉ table.map Prod.fst) : without key table = table := by
  refine List.filter_eq_self.mpr fun e member => ?_
  have differ : e.1 ≠ key := fun same => fresh (same ▸ List.mem_map_of_mem member)
  simpa using differ

/-- Nothing is left under the key, and everything else as it was. -/
theorem lookup_without (key : String) (table : List (String × α)) (other : String) :
    (without key table).lookup other = if other = key then none else table.lookup other := by
  induction table with
  | nil => simp [without]
  | cons e rest ih =>
    obtain ⟨k, a⟩ := e
    by_cases here : k = key
    · subst here
      rw [without_cons_self, ih, List.lookup_cons]
      by_cases same : other = k
      · rw [if_pos same, if_pos same]
      · have differ : (other == k) = false := by simpa using same
        rw [if_neg same, if_neg same, differ]
    · rw [without_cons_of_ne rest here, List.lookup_cons, List.lookup_cons, ih]
      by_cases same : other = k
      · simp [same, here]
      · have differ : (other == k) = false := by simpa using same
        rw [differ]

/-- Keys are still different when one is taken out. -/
theorem nodup_keys_without (key : String) (distinct : (table.map Prod.fst).Nodup) :
    ((without key table).map Prod.fst).Nodup :=
  distinct.sublist (List.filter_sublist.map _)

/-- A table is what it has under a key and what is left without the key. -/
theorem perm_of_lookup {a : α} (distinct : (table.map Prod.fst).Nodup)
    (h : table.lookup key = some a) : table.Perm ((key, a) :: without key table) := by
  obtain ⟨before, after, rfl, -⟩ := List.lookup_eq_some_iff.mp h
  have moved : (before ++ (key, a) :: after).Perm ((key, a) :: (before ++ after)) :=
    List.perm_middle
  have fresh : key ∉ (before ++ after).map Prod.fst := by
    have keys := (moved.map Prod.fst).nodup_iff.mp distinct
    exact (List.nodup_cons.mp keys).1
  have rest : without key (before ++ (key, a) :: after) = before ++ after := by
    have split : without key (before ++ (key, a) :: after) = without key (before ++ after) := by
      simp [without]
    rw [split, without_of_not_mem fresh]
  rw [rest]
  exact moved

/-- A table in which a key is changed is the changed entry and what is left without the key. -/
theorem alter_perm (f : Option α → α) (distinct : (table.map Prod.fst).Nodup) :
    (alter key f table).Perm ((key, f (table.lookup key)) :: without key table) := by
  have found : (alter key f table).lookup key = some (f (table.lookup key)) := by
    rw [lookup_alter, if_pos rfl]
  have rest : without key (alter key f table) = without key table := by
    clear distinct found
    induction table with
    | nil => simp [alter, without]
    | cons e rest ih =>
      obtain ⟨k, a⟩ := e
      rw [alter]
      by_cases here : k = key
      · subst here
        rw [if_pos rfl, without_cons_self, without_cons_self]
      · rw [if_neg here, without_cons_of_ne _ here, without_cons_of_ne _ here, ih]
  rw [← rest]
  exact perm_of_lookup (nodup_keys_alter key f distinct) found

end DocGraph
