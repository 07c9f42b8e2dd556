import DocGraph.Proofs.Build.Storing
import DocGraph.Proofs.Graph.Validity

/-!
# Values in order of first occurrence

Lists that take a value once, and tables that collect values under keys, grow at the end. Built up from
nothing, such a list has each value where it occurs first, and such a table has each key where it occurs
first, with all values that came with it, in order.
-/

set_option autoImplicit false

namespace DocGraph

variable {α : Type}

/-- Adding a value once to values without repetitions: it goes to the end if it is new. -/
theorem addOnce_eraseDups (values : List String) (value : String) :
    addOnce values.eraseDups value = (values ++ [value]).eraseDups := by
  by_cases known : value ∈ values
  · rw [addOnce, if_pos (List.mem_eraseDups.mpr known), eraseDups_append_of_mem known]
  · have new : value ∉ values.eraseDups := fun member => known (List.mem_eraseDups.mp member)
    rw [addOnce, if_neg new, eraseDups_append_of_not_mem known]

/-- Values without repetitions stay as they are. -/
theorem eraseDups_of_nodup {values : List String} (distinct : values.Nodup) :
    values.eraseDups = values := by
  induction values using List.reverseRecOn with
  | nil => rfl
  | append_singleton values value ih =>
    have new : value ∉ values := by
      intro member
      exact (List.nodup_append.mp distinct).2.2 value member value (List.mem_singleton_self value) rfl
    rw [eraseDups_append_of_not_mem new, ih (List.nodup_append.mp distinct).1]

/-- Adding values once, one after the other, removes repetitions. -/
theorem foldl_addOnce (value : α → String) (xs : List α) :
    xs.foldl (fun values x => addOnce values (value x)) [] = (xs.map value).eraseDups := by
  induction xs using List.reverseRecOn with
  | nil => rfl
  | append_singleton xs x ih =>
    rw [List.foldl_append, ih, List.foldl_cons, List.foldl_nil, addOnce_eraseDups, List.map_append,
      List.map_cons, List.map_nil]

/-- A key that is new is put at the end, and no other key comes or goes. -/
theorem keys_alter (key : String) (f : Option α → α) (table : List (String × α)) :
    (alter key f table).map Prod.fst = addOnce (table.map Prod.fst) key := by
  induction table with
  | nil => rfl
  | cons e rest ih =>
    rw [alter]
    by_cases here : e.1 = key
    · rw [if_pos here, List.map_cons, List.map_cons, addOnce, if_pos (by simp [here])]
    · rw [if_neg here, List.map_cons, List.map_cons, ih]
      unfold addOnce
      by_cases known : key ∈ rest.map Prod.fst
      · rw [if_pos known, if_pos (List.mem_cons_of_mem _ known)]
      · have new : key ∉ e.1 :: rest.map Prod.fst := by
          rintro (_ | ⟨_, member⟩)
          · exact here rfl
          · exact known member
        rw [if_neg known, if_neg new, List.cons_append]

/-- A value under a key adds the key once. -/
theorem keys_addUnder (table : List (String × List String)) (key value : String) :
    (addUnder table key value).map Prod.fst = addOnce (table.map Prod.fst) key := by
  rw [addUnder_eq_alter]
  exact keys_alter key _ table

/-- A table is known from its keys and from what is under them. -/
theorem eq_map_valuesUnder {table : List (String × List String)}
    (distinct : (table.map Prod.fst).Nodup) :
    table = (table.map Prod.fst).map fun key => (key, valuesUnder table key) := by
  rw [List.map_map]
  have entry : ∀ e ∈ table, e = (e.1, valuesUnder table e.1) := by
    intro e member
    rw [valuesUnder, lookup_of_mem distinct member]
    rfl
  exact (List.map_id _).symm.trans (List.map_congr_left entry)

section Grouped

variable (key value : α → String) (xs : List α)

/-- The table of values by key, one after the other. -/
def grouped : List (String × List String) :=
  xs.foldl (fun table x => addUnder table (key x) (value x)) []

/-- One element more is one value more under its key. -/
theorem grouped_append_singleton (x : α) :
    grouped key value (xs ++ [x]) = addUnder (grouped key value xs) (key x) (value x) := by
  rw [grouped, List.foldl_append]
  rfl

/-- The keys of a table are those of the elements, each where it occurs first. -/
theorem keys_grouped : (grouped key value xs).map Prod.fst = (xs.map key).eraseDups := by
  induction xs using List.reverseRecOn with
  | nil => rfl
  | append_singleton xs x ih =>
    rw [grouped_append_singleton, keys_addUnder, ih, addOnce_eraseDups, List.map_append, List.map_cons,
      List.map_nil]

/-- A table has no key twice. -/
theorem nodup_keys_grouped : ((grouped key value xs).map Prod.fst).Nodup := by
  induction xs using List.reverseRecOn with
  | nil => exact List.nodup_nil
  | append_singleton xs x ih =>
    rw [grouped_append_singleton, addUnder_eq_alter]
    exact nodup_keys_alter _ _ ih

/-- Under a key are the values of the elements with that key, in order. -/
theorem valuesUnder_grouped (k : String) :
    valuesUnder (grouped key value xs) k = (xs.filter fun x => key x = k).map value := by
  induction xs using List.reverseRecOn with
  | nil => rfl
  | append_singleton xs x ih =>
    rw [grouped_append_singleton, valuesUnder_addUnder, ih, List.filter_append, List.map_append]
    by_cases same : k = key x
    · simp [same]
    · simp [same, Ne.symm same]

/-- The table, key by key. -/
theorem grouped_eq : grouped key value xs =
    ((xs.map key).eraseDups).map fun k => (k, (xs.filter fun x => key x = k).map value) := by
  refine (eq_map_valuesUnder (nodup_keys_grouped key value xs)).trans ?_
  rw [keys_grouped]
  exact List.map_congr_left fun k _ => by rw [valuesUnder_grouped]

/-- What occurs first is different from all that is taken before. -/
theorem nodup_eraseDups (values : List String) : values.eraseDups.Nodup := by
  have keys := nodup_keys_grouped id id values
  rwa [keys_grouped, List.map_id] at keys

end Grouped

end DocGraph
