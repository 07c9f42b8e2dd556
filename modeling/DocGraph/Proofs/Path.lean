import DocGraph.Proofs.FileSystem.Tree
import DocGraph.Proofs.Text.Occurrence
import Mathlib

/-!
# Texts of paths

Names that are put together with slashes can be told from the text, and so can its ends. A path that is
read from a text and written again loses nothing of it but slashes and dots: any other character is
found in it as often as before, and in the same order.
-/

set_option autoImplicit false

namespace DocGraph

/-! ## Texts of names -/

/-- The names that were put together into a path text. -/
theorem segments_joined {names : List String} (nonempty : names ≠ [])
    (noSlash : ∀ name ∈ names, '/' ∉ name.toList) :
    segments ("/".intercalate names).toList = names := by
  rw [segments, Text.splitOn_eq, Path.splitOn_joined nonempty noSlash, List.map_map]
  simp [Function.comp_def]

/-- Two lists of parts are joined with a slash between them. -/
theorem joined_append {first second : List String} (some_ : first ≠ []) (any : second ≠ []) :
    ("/".intercalate (first ++ second)).toList =
      ("/".intercalate first).toList ++ '/' :: ("/".intercalate second).toList := by
  rw [String.intercalate_append_of_ne_nil some_ any]
  simp

/-- A text of names starts as the first of them does. -/
theorem head_joined {name : String} (nonempty : name ≠ "") (rest : List String) :
    ("/".intercalate (name :: rest)).toList.head? = name.toList.head? := by
  have some_ : name.toList ≠ [] := fun h => nonempty (String.toList_eq_nil_iff.mp h)
  cases rest with
  | nil => simp
  | cons next rest =>
    rw [show name :: next :: rest = [name] ++ next :: rest from rfl,
      joined_append (by simp) (by simp), List.head?_append_of_ne_nil]
    · simp
    · simpa using some_

/-- A text of names ends as the last of them does. -/
theorem last_joined (names : List String) {last : String} (nonempty : last ≠ "") :
    ("/".intercalate (names ++ [last])).toList.getLast? = last.toList.getLast? := by
  cases names with
  | nil => simp
  | cons name rest =>
    rw [joined_append (List.cons_ne_nil _ _) (List.cons_ne_nil _ _), List.getLast?_append]
    cases spelled : last.toList with
    | nil => exact absurd (String.toList_eq_nil_iff.mp spelled) nonempty
    | cons c cs => simp [spelled, List.getLast?_cons]

/-- Parts with an empty one at the end are joined to a text that ends in a slash. -/
theorem last_joined_slash {names : List String} (some_ : names ≠ []) :
    ("/".intercalate (names ++ [""])).toList.getLast? = some '/' := by
  rw [joined_append some_ (List.cons_ne_nil _ _)]
  simp

/-- A valid name does not begin with a slash. -/
theorem ValidName.head_ne {name : String} (valid : ValidName name) :
    name.toList.head? ≠ some '/' := by
  intro slash
  exact valid.noSlash (List.mem_of_mem_head? slash)

/-- A valid name does not end with a slash. -/
theorem ValidName.last_ne {name : String} (valid : ValidName name) :
    name.toList.getLast? ≠ some '/' := by
  intro slash
  exact valid.noSlash (List.mem_of_getLast? slash)

/-- A text that does not begin with a slash has no leading slashes. -/
theorem leadingSlashes_eq_zero {s : List Char} (h : s.head? ≠ some '/') : leadingSlashes s = 0 := by
  cases s with
  | nil => rfl
  | cons c rest =>
    have first : c ≠ '/' := by simpa using h
    simp [leadingSlashes, first]

/-- The text of names does not end with a slash. -/
theorem last_joined_ne {names : List String} (valid : ∀ name ∈ names, ValidName name) :
    ("/".intercalate names).toList.getLast? ≠ some '/' := by
  cases names using List.reverseRecOn with
  | nil => simp
  | append_singleton front last =>
    have validLast := valid last (by simp)
    rw [last_joined front validLast.nonempty]
    exact validLast.last_ne

/-- Parts with a name at the front are not joined to the empty text. -/
theorem joined_ne_empty {name : String} (nonempty : name ≠ "") (rest : List String) :
    "/".intercalate (name :: rest) ≠ "" := by
  intro empty
  have first := head_joined nonempty rest
  rw [empty] at first
  exact nonempty (String.toList_eq_nil_iff.mp (List.head?_eq_none_iff.mp first.symm))

/-! ## What a path keeps of its text -/

section Kept

variable {c : Char}

/-- What is not the separator is as often in a joined text as in its parts. -/
theorem count_intercalate {x : Char} (other : c ≠ x) (parts : List (List Char)) :
    ([x].intercalate parts).count c = (parts.map (List.count c)).sum := by
  induction parts with
  | nil => simp
  | cons part rest ih =>
    cases rest with
    | nil => simp
    | cons next rest =>
      have separator : [x].count c = 0 := List.count_eq_zero.mpr (by simpa using other)
      rw [List.intercalate_cons_cons, List.count_append, List.count_append, separator, ih]
      simp

/-- How often a character is found in some names. -/
def occurrences (c : Char) (names : List String) : Nat :=
  (names.map fun name => name.toList.count c).sum

/-- How often a character is in two lists of parts. -/
theorem occurrences_append (first second : List String) :
    occurrences c (first ++ second) = occurrences c first + occurrences c second := by
  simp [occurrences]

/-- Taking a text apart keeps how often a character is in it. -/
theorem occurrences_segments (noSlash : c ≠ '/') (s : List Char) :
    occurrences c (segments s) = s.count c := by
  have whole : ['/'].intercalate (s.splitOn '/') = s := List.intercalate_splitOn '/'
  have count := count_intercalate noSlash (s.splitOn '/')
  rw [whole] at count
  rw [count, occurrences, segments, Text.splitOn_eq, List.map_map]
  congr 1
  exact List.map_congr_left fun part _ => by simp

/-- The names of a path are those of its text but for empty ones and single dots. -/
theorem occurrences_filter (noDot : c ≠ '.') (names : List String) :
    occurrences c (names.filter fun part => part ≠ "" && part ≠ ".") = occurrences c names := by
  induction names with
  | nil => rfl
  | cons name rest ih =>
    have single : occurrences c (name :: rest) = name.toList.count c + occurrences c rest := by
      simp [occurrences]
    rw [List.filter_cons, single, ← ih]
    split
    · simp [occurrences]
    next dropped =>
      have none_ : name.toList.count c = 0 := by
        by_cases empty : name = ""
        · simp [empty]
        · obtain rfl : name = "." := by simpa [empty] using dropped
          exact List.count_eq_zero.mpr (by simpa using noDot)
      rw [none_, Nat.zero_add]

namespace Path

/-- Reading a path keeps how often a character is in it. -/
theorem occurrences_ofString (noSlash : c ≠ '/') (noDot : c ≠ '.') (text : String) :
    occurrences c (ofString text).parts = text.toList.count c :=
  (occurrences_filter noDot _).trans (occurrences_segments noSlash _)

/-- Writing a path keeps how often a character is in it. -/
theorem count_toString (noSlash : c ≠ '/') (noDot : c ≠ '.') (p : Path) :
    p.toString.toList.count c = occurrences c p.parts := by
  unfold toString
  split
  next empty =>
    simp only [Bool.and_eq_true, decide_eq_true_eq, List.isEmpty_iff] at empty
    rw [empty.2]
    exact List.count_eq_zero.mpr (by simpa using noDot)
  · rw [String.toList_append, String.toList_ofList, List.count_append, String.toList_intercalate,
      show "/".toList = ['/'] from rfl, count_intercalate noSlash, List.map_map,
      List.count_eq_zero.mpr fun member => noSlash (List.eq_of_mem_replicate member), Nat.zero_add]
    rfl

/-- A character is found in a path that is taken from another one as often as in both, or as in the
second one if that stands for itself. -/
theorem count_join (noSlash : c ≠ '/') (noDot : c ≠ '.') (base : Path) (text : String) :
    (base.join (ofString text)).toString.toList.count c =
      (if leadingSlashes text.toList = 0 then occurrences c base.parts else 0) +
        text.toList.count c := by
  rw [count_toString noSlash noDot, join]
  show occurrences c (Path.parts (if leadingSlashes text.toList = 0 then _ else _)) = _
  split
  · rw [occurrences_append, occurrences_ofString noSlash noDot]
  · rw [occurrences_ofString noSlash noDot, Nat.zero_add]

end Path

end Kept

/-- Leaving parts out leaves characters of the joined text out. -/
theorem intercalate_sublist {α : Type} (separator : List α) {some_ all : List (List α)}
    (h : some_.Sublist all) : (separator.intercalate some_).Sublist (separator.intercalate all) := by
  induction h with
  | slnil => exact List.Sublist.refl _
  | @cons some_ all part h ih =>
    cases all with
    | nil =>
      rw [List.sublist_nil.mp h]
      simp
    | cons next rest =>
      rw [List.intercalate_cons_cons]
      exact ih.trans (List.sublist_append_right _ _)
  | @cons_cons some_ all part h ih =>
    cases some_ with
    | nil =>
      rw [List.intercalate_singleton]
      cases all with
      | nil => simp
      | cons next rest =>
        rw [List.intercalate_cons_cons, List.append_assoc]
        exact List.sublist_append_left _ _
    | cons first more =>
      obtain ⟨next, rest, rfl⟩ := List.exists_cons_of_ne_nil fun none_ : all = [] => by
        simp [none_] at h
      rw [List.intercalate_cons_cons, List.intercalate_cons_cons]
      exact (List.Sublist.refl _).append ih

/-- Leading slashes stand before empty names. -/
theorem segments_replicate (n : Nat) (s : List Char) :
    segments (List.replicate n '/' ++ s) = List.replicate n "" ++ segments s := by
  induction n with
  | zero => rfl
  | succ n ih =>
    rw [List.replicate_succ, List.replicate_succ, List.cons_append, List.cons_append, ← ih, segments,
      Text.splitOn_eq, List.splitOn_cons_eq_if_modifyHead, if_pos (by simp), List.map_cons, segments,
      Text.splitOn_eq]

/-- There are no more leading slashes than slashes at the front. -/
theorem leadingSlashes_le (s : List Char) : leadingSlashes s ≤ (s.takeWhile (· = '/')).length := by
  unfold leadingSlashes
  split
  next none_ => exact Nat.zero_le _
  next two => exact two.ge
  next none_ _ => exact Nat.one_le_iff_ne_zero.mpr none_

/-- The segments of a text, joined, are the text. -/
theorem joined_segments (s : List Char) : ("/".intercalate (segments s)).toList = s := by
  rw [String.toList_intercalate, segments, Text.splitOn_eq, List.map_map]
  simp [Function.comp_def]

/-- A path that starts with a slash is written with some of the characters of its text, in their
order. -/
theorem Path.toString_ofString_sublist {text : String} (rooted : leadingSlashes text.toList ≠ 0) :
    (ofString text).toString.toList.Sublist text.toList := by
  obtain ⟨n, s, split, enough⟩ : ∃ n s, text.toList = List.replicate n '/' ++ s ∧
      leadingSlashes text.toList ≤ n := by
    refine ⟨_, text.toList.dropWhile (· = '/'), ?_, leadingSlashes_le _⟩
    have slashes : text.toList.takeWhile (· = '/') =
        List.replicate (text.toList.takeWhile (· = '/')).length '/' :=
      List.eq_replicate_iff.mpr ⟨rfl, fun c member => by simpa using List.mem_takeWhile_imp member⟩
    rw [← slashes, List.takeWhile_append_dropWhile]
  have names : (ofString text).parts = (segments s).filter fun part => part ≠ "" && part ≠ "." := by
    have none_ : (List.replicate n "").filter (fun part => part ≠ "" && part ≠ ".") = [] := by
      simp
    rw [ofString]
    dsimp only
    rw [split, segments_replicate, List.filter_append, none_, List.nil_append]
  have written : (ofString text).toString.toList =
      List.replicate (leadingSlashes text.toList) '/' ++ ("/".intercalate (ofString text).parts).toList := by
    have some_ : ¬((ofString text).slashes = 0 && (ofString text).parts.isEmpty) = true := by
      simp [ofString, rooted]
    rw [toString, if_neg some_, String.toList_append, String.toList_ofList]
    rfl
  have kept := intercalate_sublist "/".toList
    ((List.filter_sublist (p := fun part => part ≠ "" && part ≠ ".") (l := segments s)).map String.toList)
  rw [← String.toList_intercalate, ← String.toList_intercalate, joined_segments, ← names] at kept
  rw [written, split]
  rw [split] at enough
  exact (List.replicate_sublist_replicate _ |>.mpr enough).append kept

end DocGraph
