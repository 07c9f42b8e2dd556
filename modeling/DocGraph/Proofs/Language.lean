import DocGraph.Language
import DocGraph.Proofs.Grouping

/-!
# Which language has an ending

A registry is a table that keeps its order: a key stands where it was first registered, and a language
that is registered under it later takes the old place. Of the languages that claim an ending the last
one in this order has it. So a registration takes effect at once under a new key, and under an old key
unless a language behind it claims the ending as well: `detect_register`. Endings that neither the new
language nor the one in whose place it comes claims are not touched.
-/

set_option autoImplicit false

namespace DocGraph.Registry

/-- Register languages, one after the other. -/
def registerAll (r : Registry) (entries : List (String × Language)) : Registry :=
  entries.foldl (fun r e => r.register e.1 e.2) r

/-- What stands behind a key; nothing if the key is not there. -/
def behind (r : Registry) (key : String) : Registry :=
  (r.dropWhile fun e => e.1 ≠ key).tail

/-- The language that has an ending, which is given in lower case. -/
def owner? (r : Registry) (ending : String) : Option Language :=
  (r.reverse.find? fun e => claims e.2 ending).map Prod.snd

/-- The ending of a path, in lower case. -/
def endingOf (path : String) : String :=
  Text.lower (Path.ofString path).extension

variable {r front : Registry} {key ending path : String} {language old : Language}

/-! ## The order of keys -/

/-- A registration is an alteration that ignores the old language. -/
theorem register_eq_alter (r : Registry) (key : String) (language : Language) :
    r.register key language = alter key (fun _ => language) r := by
  induction r with
  | nil => rfl
  | cons e rest ih => rw [register, ih, alter]

/-- After a registration its key has the language, and the others have what they had. -/
theorem get?_register (r : Registry) (key : String) (language : Language) (k : String) :
    (r.register key language).get? k = if k = key then some language else r.get? k := by
  rw [register_eq_alter]
  exact lookup_alter key _ r k

/-- A registration adds its key once. -/
theorem keys_register (r : Registry) (key : String) (language : Language) :
    (r.register key language).map Prod.fst = addOnce (r.map Prod.fst) key := by
  rw [register_eq_alter]
  exact keys_alter key _ r

/-- Under a key is the language that was registered under it last. -/
theorem get?_registerAll (r : Registry) (entries : List (String × Language)) (k : String) :
    (r.registerAll entries).get? k = (entries.reverse ++ r).lookup k := by
  induction entries using List.reverseRecOn with
  | nil => rfl
  | append_singleton entries e ih =>
    have last : r.registerAll (entries ++ [e]) = (r.registerAll entries).register e.1 e.2 := by
      rw [registerAll, List.foldl_append]
      rfl
    rw [last, get?_register, ih, List.reverse_append, List.reverse_singleton, List.singleton_append,
      List.cons_append, List.lookup_cons]
    by_cases same : k = e.1
    · simp [same]
    · have differ : (k == e.1) = false := by simpa using same
      rw [if_neg same, differ]

/-- Keys stand in the order in which they were first registered. -/
theorem keys_registerAll (distinct : (r.map Prod.fst).Nodup) (entries : List (String × Language)) :
    (r.registerAll entries).map Prod.fst = ((r ++ entries).map Prod.fst).eraseDups := by
  induction entries using List.reverseRecOn with
  | nil => rw [List.append_nil, eraseDups_of_nodup distinct, registerAll, List.foldl_nil]
  | append_singleton entries e ih =>
    have last : r.registerAll (entries ++ [e]) = (r.registerAll entries).register e.1 e.2 := by
      rw [registerAll, List.foldl_append]
      rfl
    have keys : ((r ++ (entries ++ [e])).map Prod.fst) =
        (r ++ entries).map Prod.fst ++ [e.1] := by
      rw [← List.append_assoc, List.map_append, List.map_singleton]
    rw [last, keys_register, ih, addOnce_eraseDups, keys]

/-! ## The owner of an ending -/

/-- What claims an ending further behind has it. -/
theorem owner?_append (r s : Registry) (ending : String) :
    (r ++ s).owner? ending = (s.owner? ending).or (r.owner? ending) := by
  rw [owner?, owner?, owner?, List.reverse_append, List.find?_append, Option.map_or]

/-- What stands at a key has an ending that nothing behind it claims, if it claims it itself. -/
theorem owner?_middle (front rest : Registry) (key : String) (language : Language)
    (ending : String) :
    (front ++ (key, language) :: rest).owner? ending =
      (rest.owner? ending).or
        (if claims language ending then some language else front.owner? ending) := by
  rw [List.append_cons, owner?_append, owner?_append]
  by_cases claimed : claims language ending = true
  · simp [owner?, claimed]
  · simp [owner?, claimed]

/-- The language of a path is the one that has its ending. -/
theorem detect_eq (r : Registry) (path : String) :
    r.detect path = if endingOf path = "" then unknownLanguage
      else ((r.owner? (endingOf path)).map Language.name).getD unknownLanguage := by
  unfold detect owner? endingOf
  by_cases empty : Text.lower (Path.ofString path).extension = ""
  · rw [if_pos empty]
    exact if_pos (String.isEmpty_iff.mpr empty)
  · rw [if_neg empty]
    refine (if_neg fun h => empty (String.isEmpty_iff.mp h)).trans ?_
    cases r.reverse.find? fun e => claims e.2 (Text.lower (Path.ofString path).extension) with
    | none => rfl
    | some e => rfl

/-! ## One registration -/

/-- Under a new key a language comes last. -/
theorem register_of_get?_none (new : r.get? key = none) (language : Language) :
    r.register key language = r ++ [(key, language)] ∧ r.behind key = [] := by
  have fresh : ∀ e ∈ r, e.1 ≠ key := by
    intro e member same
    have differ := List.lookup_eq_none_iff.mp new e member
    simp [same] at differ
  constructor
  · rw [register_eq_alter]
    refine alter_of_not_mem _ fun listed => ?_
    obtain ⟨e, member, same⟩ := List.mem_map.mp listed
    exact fresh e member same
  · have all : r.dropWhile (fun e => decide (e.1 ≠ key)) = [] :=
      List.dropWhile_eq_nil_iff.mpr fun e member => by simpa using fresh e member
    rw [behind, all, List.tail_nil]

/-- Under an old key a language takes the place of the one that is there. -/
theorem register_of_get?_some (there : r.get? key = some old) (language : Language) :
    ∃ front, r = front ++ (key, old) :: r.behind key ∧
      r.register key language = front ++ (key, language) :: r.behind key := by
  obtain ⟨front, rest, rfl, fresh⟩ := List.lookup_eq_some_iff.mp there
  have passed : ∀ e ∈ front, decide (e.1 ≠ key) = true := by
    intro e member
    have differ : key ≠ e.1 := by simpa using fresh e member
    simpa using Ne.symm differ
  have rest_ : behind (front ++ (key, old) :: rest) key = rest := by
    rw [behind, List.dropWhile_append_of_pos passed]
    simp
  refine ⟨front, by rw [rest_], ?_⟩
  rw [rest_]
  clear there rest_ fresh
  induction front with
  | nil => simp [register]
  | cons e front ih =>
    obtain ⟨first, others⟩ := List.forall_mem_cons.mp passed
    rw [List.cons_append, register, if_neg (by simpa using first), ih others, List.cons_append]

/-- A language has what it claims as soon as it is registered, unless a language behind it claims the
same. -/
theorem owner?_register (claimed : claims language ending = true) :
    (r.register key language).owner? ending =
      some (((r.behind key).owner? ending).getD language) := by
  have own : ∀ front : Registry, (front ++ (key, language) :: r.behind key).owner? ending =
      some (((r.behind key).owner? ending).getD language) := by
    intro front
    rw [owner?_middle, if_pos claimed]
    cases (r.behind key).owner? ending with
    | none => rfl
    | some later => rfl
  cases there : r.get? key with
  | none =>
    obtain ⟨added, nothing⟩ := register_of_get?_none there language
    rw [added, ← own r, nothing]
  | some old =>
    obtain ⟨front, -, placed⟩ := register_of_get?_some there language
    rw [placed, own front]

/-- What neither the new language claims nor the one in whose place it comes stays with its owner. -/
theorem owner?_register_of_unclaimed (unclaimed : claims language ending = false)
    (unclaimedToo : ∀ old ∈ r.get? key, claims old ending = false) :
    (r.register key language).owner? ending = r.owner? ending := by
  cases there : r.get? key with
  | none =>
    rw [(register_of_get?_none there language).1, owner?_middle, unclaimed]
    rfl
  | some old =>
    obtain ⟨front, split, placed⟩ := register_of_get?_some there language
    have same : r.owner? ending = (front ++ (key, old) :: r.behind key).owner? ending := by
      rw [← split]
    rw [placed, same, owner?_middle, owner?_middle, unclaimed, unclaimedToo old there]
    rfl

/-- In a registry that languages were registered in, from nothing or from the standard ones, the keys
stand in the order in which they were first registered, and under each is the language that was
registered last. Registering a language then gives it the endings that it claims, but for those that
a language behind its key claims, which stay with the last of these; there is none behind a new key.
The language of a path changes only if its ending is claimed by the new language or by the one in
whose place it comes. -/
theorem detect_register (start : Registry) (known : start ∈ [[], standard])
    (before : List (String × Language)) (key : String) (language : Language) (path : String) :
    let r := start.registerAll before
    r.map Prod.fst = ((start ++ before).map Prod.fst).eraseDups ∧
      (∀ k, r.get? k = (before.reverse ++ start).lookup k) ∧
      (endingOf path ≠ "" → claims language (endingOf path) = true →
        (r.register key language).detect path =
          (((r.behind key).owner? (endingOf path)).getD language).name) ∧
      (r.get? key = none → r.behind key = []) ∧
      (claims language (endingOf path) = false →
        (∀ old ∈ r.get? key, claims old (endingOf path) = false) →
        (r.register key language).detect path = r.detect path) := by
  intro r
  have distinct : (start.map Prod.fst).Nodup := by
    rcases List.mem_pair.mp known with rfl | rfl
    · exact List.nodup_nil
    · decide
  refine ⟨keys_registerAll distinct before, get?_registerAll start before, ?_,
    fun new => (register_of_get?_none new language).2, ?_⟩
  · intro some_ claimed
    rw [detect_eq, if_neg some_, owner?_register claimed]
    rfl
  · intro unclaimed unclaimedToo
    rw [detect_eq, detect_eq, owner?_register_of_unclaimed unclaimed unclaimedToo]

/-- Another language for the key of a standard one, with an ending more, which nothing behind it
claims. -/
theorem detect_register_of_go :
    standard ∈ [[], standard] ∧ endingOf "tools/BUILD.ZIG" ≠ "" ∧
      claims ⟨"Golang", [".go", ".zig"]⟩ (endingOf "tools/BUILD.ZIG") = true ∧
      ((standard.registerAll [("zig", ⟨"Zig", [".zon"]⟩)]).register "go"
        ⟨"Golang", [".go", ".zig"]⟩).detect "tools/BUILD.ZIG" = "Golang" := by
  have some_ : endingOf "tools/BUILD.ZIG" ≠ "" := by decide
  have claimed : claims ⟨"Golang", [".go", ".zig"]⟩ (endingOf "tools/BUILD.ZIG") = true := by decide
  have known : standard ∈ [[], standard] := by simp
  obtain ⟨-, -, taken, -, -⟩ := detect_register standard known [("zig", ⟨"Zig", [".zon"]⟩)] "go"
    ⟨"Golang", [".go", ".zig"]⟩ "tools/BUILD.ZIG"
  refine ⟨known, some_, claimed, (taken some_ claimed).trans ?_⟩
  decide

/-- C is registered anew with one more ending, but C++, whose key came after that of C, keeps it. -/
theorem register_without_effect :
    endingOf "vec.hpp" ≠ "" ∧ claims ⟨"C", [".c", ".h", ".hpp"]⟩ (endingOf "vec.hpp") = true ∧
      ((standard.registerAll []).register "c" ⟨"C", [".c", ".h", ".hpp"]⟩).detect "vec.hpp" =
        "C++" := by
  decide

end DocGraph.Registry
