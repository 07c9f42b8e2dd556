import DocGraph.Proofs.Git.Status
import Mathlib

/-!
# Which files of a status are told right

A file of a status is `Readable` if its name has no character that is escaped, and no mark of a renaming
stands in the first name on its line. `uncommittedChanges_of_status` says that the paths of these files
are told, and that of every other file another path is told, or none.

That a path is another one is seen from its characters. An escape brings a backslash in, a mark that was
taken for one too early takes a closing angle bracket away, and one that was left brings it in. Only
where what is left starts with a slash, so that it stands for itself, this is not enough: then more
slashes follow the mark in the path of the file than in what is told.
-/

set_option autoImplicit false

namespace DocGraph

namespace Git

/-- The name of a file is not escaped, and no mark stands in the first name on its line. -/
structure StatusEntry.Readable (e : StatusEntry) : Prop where
  plain : ∀ c ∈ e.name.text.toList, isPlain c = true
  noMark : ¬renameMark <:+: e.firstName.text.toList

variable {e : StatusEntry} {c : Char}

/-- What is told of a readable entry is the name of the file. -/
theorem told_of_readable (h : e.Readable) : e.told = e.name.text.toList := by
  have noQuote : '"' ∉ e.name.text.toList := fun member => absurd (h.plain '"' member) (by decide)
  rw [told_of_noMark h.noMark, escaped_of_plain h.plain, withoutQuotes_of_not_mem noQuote]

/-! ## How often a character is told -/

/-- A plain character that no escape is written with is as often in a name as it is shown. -/
theorem count_shown (plain : isPlain c = true) (foreign : c ∉ escapeLetters) (noQuote : c ≠ '"')
    (name : List Char) : (shown name).count c = name.count c := by
  rcases shown_cases name with quoted | ⟨bare, -⟩
  · have quote : ['"'].count c = 0 := List.count_eq_zero.mpr (by simpa using noQuote)
    rw [quoted, List.count_cons_of_ne (Ne.symm noQuote), List.count_append, count_escaped plain foreign,
      quote, Nat.add_zero]
  · rw [bare]

/-- A name with an escape has more backslashes when it is told. -/
theorem count_told_of_noMark (h : ¬renameMark <:+: e.firstName.text.toList)
    (member : c ∈ e.name.text.toList) (escapes : isPlain c = false) :
    e.name.text.toList.count '\\' < e.told.count '\\' := by
  rw [told_of_noMark h, count_withoutQuotes (by decide)]
  exact count_backslash_lt member escapes

/-- Cut out from behind a mark in it, a name has fewer closing brackets. -/
theorem count_told_of_unmoved (h : renameMark <:+: e.firstName.text.toList) (former : e.former = none) :
    e.told.count '>' < e.name.text.toList.count '>' := by
  obtain ⟨front, back, split, told⟩ := told_of_mark h
  have first : e.firstName = e.name := by rw [StatusEntry.firstName, former]; rfl
  have behind : e.behindFirst = [] := by simp [StatusEntry.behindFirst, former]
  have mark : renameMark.count '>' = 1 := rfl
  have whole := count_escaped (d := '>') (by decide) (by decide) e.name.text.toList
  rw [← first, split, List.count_append, List.count_append, mark] at whole
  rw [told, behind, count_withoutQuotes (by decide), List.count_append,
    List.count_cons_of_ne (by decide), List.count_nil, ← first, ← whole]
  omega

/-- Behind a mark in the former name the real mark is left. What is told behind its bracket has as many
closing brackets and slashes as the name. -/
theorem told_of_moved (h : renameMark <:+: e.firstName.text.toList) (former : e.former.isSome = true) :
    ∃ front back, e.told = front ++ '>' :: back ∧
      back.count '>' = e.name.text.toList.count '>' ∧ back.count '/' = e.name.text.toList.count '/' := by
  obtain ⟨-, back, -, told⟩ := told_of_mark h
  have behind : e.behindFirst = [' ', '-'] ++ '>' :: ' ' :: shown e.name.text.toList := by
    rw [StatusEntry.behindFirst, if_pos former, renameMark_eq]
    rfl
  have kept : ∀ d, isPlain d = true → d ∉ escapeLetters → d ≠ '"' → d ≠ ' ' →
      ((' ' :: shown e.name.text.toList).rdropWhile (· = '"')).count d = e.name.text.toList.count d := by
    intro d plain foreign noQuote noBlank
    rw [count_rdropWhile_of_ne (by simpa using noQuote), List.count_cons_of_ne (Ne.symm noBlank),
      count_shown plain foreign noQuote]
  rw [behind, List.append_cons back, ← List.append_assoc, withoutQuotes_append_cons (by decide)] at told
  exact ⟨_, _, told, kept '>' (by decide) (by decide) (by decide) (by decide),
    kept '/' (by decide) (by decide) (by decide) (by decide)⟩

/-! ## Paths -/

/-- The name of a file begins with no slash. -/
theorem leadingSlashes_name (n : FileName) : leadingSlashes n.text.toList = 0 := by
  obtain ⟨c, rest, chars, noSlash⟩ := n.text_cons
  exact leadingSlashes_eq_zero (by simpa [chars] using noSlash)

/-- What is told of a file by its escaped name does not start with a slash. -/
theorem leadingSlashes_told (h : ¬renameMark <:+: e.firstName.text.toList) :
    leadingSlashes e.told = 0 := by
  obtain ⟨c, rest, chars, noSlash⟩ := e.name.text_cons
  obtain ⟨d, tail, split, noQuote, noSlash'⟩ : ∃ d tail, escaped e.name.text.toList = d :: tail ∧
      d ≠ '"' ∧ d ≠ '/' := by
    rw [chars, escaped_cons]
    cases plain : isPlain c with
    | true =>
      refine ⟨c, _, by rw [escape_of_plain plain]; rfl, ?_, noSlash⟩
      rintro rfl
      revert plain
      decide
    | false =>
      obtain ⟨tail, split, -⟩ := escape_of_not_plain plain
      exact ⟨'\\', _, by rw [split, List.cons_append], by decide, by decide⟩
  refine leadingSlashes_eq_zero ?_
  rw [told_of_noMark h, split, ← List.nil_append (d :: tail), withoutQuotes_append_cons noQuote]
  simpa using noSlash'

/-! ## Brackets and slashes in a text -/

/-- Part of a text that has all the copies of a character can be cut where the text is cut. -/
theorem exists_cut_of_sublist {c : Char} {part front back : List Char}
    (h : part.Sublist (front ++ c :: back)) (all : part.count c = (front ++ c :: back).count c) :
    ∃ first second, part = first ++ c :: second ∧ second.Sublist back ∧ second.count c = back.count c := by
  obtain ⟨first, rest, rfl, before, behind⟩ := List.sublist_append_iff.mp h
  have few := before.count_le c
  rw [List.count_append, List.count_append, List.count_cons_self] at all
  rcases List.sublist_cons_iff.mp behind with short | ⟨second, rfl, later⟩
  · have fewer := short.count_le c
    omega
  · have fewer := later.count_le c
    rw [List.count_cons_self] at all
    exact ⟨first, second, rfl, later, by omega⟩

/-- A text that ends with a name, behind a slash, has more slashes than the name behind any bracket that
has as many brackets behind it as the name. -/
theorem slashes_behind_bracket {front name first second : List Char}
    (whole : first ++ '>' :: second = front ++ name) (ends : ∀ c ∈ front.getLast?, c = '/')
    (brackets : second.count '>' = name.count '>') : name.count '/' < second.count '/' := by
  rcases List.append_eq_append_iff.mp whole with ⟨between, rfl, split⟩ | ⟨between, -, split⟩
  · cases between with
    | nil =>
      have more := congrArg (List.count '>') split
      rw [List.nil_append, List.count_cons_self] at more
      omega
    | cons c between =>
      rw [List.cons_append] at split
      obtain ⟨rfl, rfl⟩ := List.cons.inj split
      -- The bracket is in front of the slash before the name.
      rw [List.count_append] at brackets ⊢
      rcases List.eq_nil_or_concat between with rfl | ⟨inner, d, rfl⟩
      · have last := ends '>' (by simp)
        cases last
      · rw [List.concat_eq_append, ← List.cons_append, ← List.append_assoc, List.getLast?_concat] at ends
        obtain rfl : d = '/' := ends d rfl
        simp
  · have more := congrArg (List.count '>') split
    rw [List.count_append, List.count_cons_self] at more
    omega

/-! ## One answer for each -/

/-- If at most one answer is given for each element, the answers are the expected ones exactly if each
element has its own. -/
theorem map_filterMap_eq_map_iff {α β γ : Type} {answer : α → Option β} {g : β → γ} {expected : α → γ}
    {xs : List α} : (xs.filterMap answer).map g = xs.map expected ↔
      ∀ x ∈ xs, (answer x).map g = some (expected x) := by
  induction xs with
  | nil => simp
  | cons x rest ih =>
    rw [List.forall_mem_cons, ← ih, List.filterMap_cons, List.map_cons]
    cases given : answer x with
    | none =>
      have few := List.length_filterMap_le answer rest
      constructor
      · intro same
        have lengths := congrArg List.length same
        simp at lengths
        omega
      · rintro ⟨none_, -⟩
        cases none_
    | some b => simp

/-! ## Three files -/

/-- The name of a file at the top of a repository. -/
def topName (name : String) (valid : ValidName name) : FileName :=
  ⟨[name], List.cons_ne_nil _ _, by simpa using valid⟩

/-- A file with a mark in its name that was changed. -/
def marked : StatusEntry :=
  ⟨.unmodified, .modified, none, topName "a -> b.go" (by constructor <;> decide), rfl⟩

/-- A new file with a letter in its name that is not ASCII. -/
def accented : StatusEntry :=
  ⟨.untracked, .untracked, none, topName "café.go" (by constructor <;> decide), rfl⟩

/-- A file that was renamed, with a mark in its new name. -/
def renamedToMarked : StatusEntry :=
  ⟨.renamed, .unmodified, some (topName "old.go" (by constructor <;> decide)),
    topName "a -> b.go" (by constructor <;> decide), rfl⟩

end Git

namespace Repository

open Git

variable (r : Repository)

/-- The path of a file that is named relative to the repository. -/
def pathOf (name : String) : String :=
  (r.path.join (Path.ofString name)).toString

/-- Names are located one by one. -/
theorem locate_eq (names : List String) : r.locate names = names.map r.pathOf :=
  rfl

/-- How often a character is in the path of a name: as often as in the repository's path and in the
name, or in the name alone if that begins with a slash. -/
theorem count_pathOf {c : Char} (noSlash : c ≠ '/') (noDot : c ≠ '.') (name : String) :
    (r.pathOf name).toList.count c =
      (if leadingSlashes name.toList = 0 then occurrences c r.path.parts else 0) +
        name.toList.count c :=
  Path.count_join noSlash noDot r.path name

/-- The path of a file ends with its name, behind a slash. -/
theorem exists_pathOf_name (n : FileName) : ∃ front, (r.pathOf n.text).toList = front ++ n.text.toList ∧
    ∀ c ∈ front.getLast?, c = '/' := by
  have noSlash : ∀ part ∈ n.parts, '/' ∉ part.toList := fun part member => (n.valid part member).noSlash
  have kept : n.parts.filter (fun part => part ≠ "" && part ≠ ".") = n.parts :=
    List.filter_eq_self.mpr fun part member => by
      simp [(n.valid part member).nonempty, (n.valid part member).noDot]
  have read : Path.ofString n.text = ⟨0, n.parts⟩ := by
    rw [Path.ofString, leadingSlashes_name n, FileName.text, segments_joined n.nonempty noSlash, kept]
  have below : r.pathOf n.text = (r.path.below n.parts).toString := by
    rw [pathOf, read]
    rfl
  rw [below, Path.toString_below r.path n.nonempty, String.toList_append, String.toList_ofList]
  by_cases top : r.path.parts = []
  · refine ⟨_, by rw [top, List.nil_append]; rfl, fun c last => ?_⟩
    exact List.eq_of_mem_replicate (List.mem_of_getLast? last)
  · refine ⟨_, by rw [joined_append top n.nonempty, List.append_cons, ← List.append_assoc]; rfl, ?_⟩
    simp

/-- A text that stands for itself, with a bracket that the characters of a name follow, is another path
than that of the name. -/
theorem pathOf_rooted_ne {n : FileName} {text : String} {front back : List Char}
    (rooted : leadingSlashes text.toList ≠ 0) (split : text.toList = front ++ '>' :: back)
    (brackets : back.count '>' = n.text.toList.count '>')
    (slashes : back.count '/' = n.text.toList.count '/') : r.pathOf text ≠ r.pathOf n.text := by
  intro same
  have itself : r.pathOf text = (Path.ofString text).toString :=
    congrArg Path.toString (if_neg rooted)
  have part := Path.toString_ofString_sublist rooted
  have all := r.count_pathOf (c := '>') (by decide) (by decide) text
  rw [if_neg rooted, Nat.zero_add, same, split] at all
  rw [← itself, same, split] at part
  obtain ⟨first, second, cut, later, kept⟩ := exists_cut_of_sublist part all
  obtain ⟨above, named, ends⟩ := r.exists_pathOf_name n
  have more := slashes_behind_bracket (cut.symm.trans named) ends (kept.trans brackets)
  have few := later.count_le '/'
  omega

/-- What is told of a file that is not readable leads to another path. -/
theorem pathOf_told_ne {e : StatusEntry} (h : ¬e.Readable) :
    r.pathOf (String.ofList e.told) ≠ r.pathOf e.name.text := by
  intro same
  have counts : ∀ c, c ≠ '/' → c ≠ '.' →
      (if leadingSlashes e.told = 0 then occurrences c r.path.parts else 0) + e.told.count c =
        occurrences c r.path.parts + e.name.text.toList.count c := by
    intro c noSlash noDot
    have told := r.count_pathOf noSlash noDot (String.ofList e.told)
    have named := r.count_pathOf noSlash noDot e.name.text
    rw [String.toList_ofList] at told
    rw [leadingSlashes_name, if_pos rfl] at named
    rw [← told, ← named, same]
  by_cases mark : renameMark <:+: e.firstName.text.toList
  · have brackets := counts '>' (by decide) (by decide)
    cases former : e.former.isSome with
    | false =>
      have fewer := count_told_of_unmoved mark (by simpa using former)
      split at brackets <;> omega
    | true =>
      obtain ⟨front, back, told, kept, slashes⟩ := told_of_moved mark former
      have more : e.told.count '>' = front.count '>' + 1 + e.name.text.toList.count '>' := by
        rw [told, List.count_append, List.count_cons_self, kept]
        omega
      by_cases relative : leadingSlashes e.told = 0
      · rw [if_pos relative] at brackets
        omega
      · exact r.pathOf_rooted_ne (by simpa using relative) (by simpa using told) kept slashes same
  · obtain ⟨c, member, escapes⟩ : ∃ c ∈ e.name.text.toList, isPlain c = false := by
      by_contra none_
      refine h ⟨fun c member => Bool.eq_true_of_not_eq_false fun escapes => ?_, mark⟩
      exact none_ ⟨c, member, escapes⟩
    have backslashes := counts '\\' (by decide) (by decide)
    have more := count_told_of_noMark mark member escapes
    rw [if_pos (leadingSlashes_told mark)] at backslashes
    omega

/-- A file is told right exactly if it is readable. -/
theorem told_right_iff (e : StatusEntry) :
    (statusName e.line).map r.pathOf = some (r.pathOf e.name.text) ↔ e.Readable := by
  constructor
  · intro right
    by_contra unreadable
    rw [statusName_line] at right
    split at right
    · cases right
    · exact r.pathOf_told_ne unreadable (Option.some.inj right)
  · intro readable
    have some_ : ¬e.name.text.toList.isEmpty = true := by simpa using e.name.toList_ne_nil
    rw [statusName_line, told_of_readable readable, if_neg some_, String.ofList_toList]
    rfl

/-- The files that are told as changed, if git writes a status: each line tells of its own file or of
none, a file is told by its path exactly if it is readable, and so the answer is right, with the paths of
all the files in order, exactly if all of them are. -/
theorem uncommittedChanges_of_status (entries : List StatusEntry) (installed : r.git.isInstalled = true)
    (succeeds : (r.git.reply ["status", "--porcelain"]).code = 0)
    (written : (r.git.reply ["status", "--porcelain"]).output = status entries) :
    r.uncommittedChanges.answer = .ok (r.locate (entries.filterMap fun e => statusName e.line)) ∧
      (∀ e ∈ entries,
        (statusName e.line).map r.pathOf = some (r.pathOf e.name.text) ↔ e.Readable) ∧
      (r.uncommittedChanges.answer = .ok (r.locate (entries.map fun e => e.name.text)) ↔
        ∀ e ∈ entries, e.Readable) := by
  have answer : r.uncommittedChanges.answer =
      .ok (r.locate (entries.filterMap fun e => statusName e.line)) := by
    rw [← statusNames_status, ← written]
    simp [uncommittedChanges, Git.output, Git.run, GitRun.andThen, GitRun.done, installed, succeeds]
  refine ⟨answer, fun e _ => r.told_right_iff e, ?_⟩
  rw [answer, Except.ok.injEq, locate_eq, locate_eq, List.map_map, map_filterMap_eq_map_iff]
  exact forall₂_congr fun e _ => r.told_right_iff e

/-- A repository in which git writes a status. -/
def writing (entries : List StatusEntry) : Repository :=
  ⟨Path.ofString "/repo", ⟨true, fun _ => ⟨0, status entries, ""⟩⟩⟩

/-- A mark in the new name does no harm. -/
theorem uncommittedChanges_of_renamedToMarked :
    (writing [renamedToMarked]).git.isInstalled = true ∧
      ((writing [renamedToMarked]).git.reply ["status", "--porcelain"]).code = 0 ∧
      status [renamedToMarked] = "R  old.go -> \"a -> b.go\"\n" ∧
      (writing [renamedToMarked]).uncommittedChanges.answer = .ok ["/repo/a -> b.go"] := by
  have readable : ∀ e ∈ [renamedToMarked], e.Readable := by
    refine List.forall_mem_singleton.mpr ⟨List.all_eq_true.mp ?_, ?_⟩
    · decide
    · decide
  refine ⟨rfl, rfl, by decide, ?_⟩
  exact ((writing [renamedToMarked]).uncommittedChanges_of_status [renamedToMarked] rfl rfl rfl).2.2.mpr
    readable

/-- A mark in the name of a file that was only changed is taken for a renaming, and the letter that is not
ASCII stays escaped. -/
theorem uncommittedChanges_of_marked_accented :
    status [marked, accented] = " M \"a -> b.go\"\n?? \"caf\\303\\251.go\"\n" ∧
      (writing [marked, accented]).uncommittedChanges.answer =
        .ok ["/repo/b.go", "/repo/caf\\303\\251.go"] ∧
      (writing [marked, accented]).locate ([marked, accented].map fun e => e.name.text) =
        ["/repo/a -> b.go", "/repo/café.go"] := by
  refine ⟨by decide, by decide, by decide⟩

end Repository

end DocGraph
