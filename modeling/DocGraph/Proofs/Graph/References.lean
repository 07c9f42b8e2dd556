import DocGraph.Graph
import DocGraph.Proofs.Path
import DocGraph.Proofs.Text.Blank

/-!
# Where relative references lead

A module refers to a file by the way that leads there: from the directory of the module up, by two
dots as often as it takes, and then down by names. On the way down there may be single dots, doubled
slashes, and detours into a directory and out again, and the whole may stand in angle brackets.
`resolveDependency_reaches` says that each of these is resolved to the path of the file, and so to
the module there.

The normal form of a path is worked out on a stack. Names go onto it and two dots take them off, so
`Respells`, which says how the way down may be written, leaves the same stack as the names alone.
-/

set_option autoImplicit false

namespace DocGraph

/-! ## Directories of path texts -/

/-- No character of a name is a slash, from the back as well. -/
theorem ne_slash_of_reverse {file : String} (noSlash : '/' ∉ file.toList) :
    ∀ c ∈ file.toList.reverse, (c != '/') = true := by
  intro c member
  simp only [bne_iff_ne]
  rintro rfl
  exact noSlash (List.mem_reverse.mp member)

/-- A name alone is in the directory without a name. -/
theorem directoryOf_name {file : String} (noSlash : '/' ∉ file.toList) : directoryOf file = "" := by
  have none_ : file.toList.reverse.dropWhile (· != '/') = [] := by
    rw [← List.append_nil file.toList.reverse,
      List.dropWhile_append_of_pos (ne_slash_of_reverse noSlash)]
    rfl
  simp [directoryOf, none_, dropTrailingSlashes]

/-- A file is in the directory in front of its name. -/
theorem directoryOf_child {directory file : String} (filled : directory ≠ "")
    (last : directory.toList.getLast? ≠ some '/') (noSlash : '/' ∉ file.toList) :
    directoryOf (directory ++ "/" ++ file) = directory := by
  have head : ((directory ++ "/" ++ file).toList.reverse.dropWhile (· != '/')).reverse =
      directory.toList ++ ['/'] := by
    have turned : (directory ++ "/" ++ file).toList.reverse =
        file.toList.reverse ++ '/' :: directory.toList.reverse := by simp
    rw [turned, List.dropWhile_append_of_pos (ne_slash_of_reverse noSlash)]
    simp
  have bare : dropTrailingSlashes (directory.toList ++ ['/']) = directory.toList := by
    rw [List.getLast?_eq_head?_reverse] at last
    unfold dropTrailingSlashes
    cases back : directory.toList.reverse with
    | nil => exact absurd (String.toList_eq_nil_iff.mp (List.reverse_eq_nil_iff.mp back)) filled
    | cons c cs =>
      rw [back] at last
      have other : c ≠ '/' := by simpa using last
      simp [back, other, ← List.reverse_eq_iff.mp back]
  unfold directoryOf
  rw [head]
  dsimp only
  rw [bare]
  simp [filled]

/-- The directory of a path text is what is left without the last name. -/
theorem directoryOf_joined {names : List String} {file : String}
    (valid : ∀ name ∈ names ++ [file], ValidName name) :
    directoryOf ("/".intercalate (names ++ [file])) = "/".intercalate names := by
  have noSlash := (valid file (by simp)).noSlash
  cases names with
  | nil => simpa using directoryOf_name noSlash
  | cons name rest =>
    have validNames : ∀ n ∈ name :: rest, ValidName n := fun n member =>
      valid n (List.mem_append_left _ member)
    have filled := joined_ne_empty (validNames name List.mem_cons_self).nonempty rest
    rw [String.intercalate_append_of_ne_nil (List.cons_ne_nil _ _) (List.cons_ne_nil _ _),
      String.intercalate_singleton]
    exact directoryOf_child filled (last_joined_ne validNames) noSlash

/-- A reference that does not start with a slash goes on from the directory. -/
theorem joinTexts_joined {names parts : List String} (valid : ∀ name ∈ names, ValidName name)
    (some_ : parts ≠ []) (relative : ("/".intercalate parts).toList.head? ≠ some '/') :
    joinTexts ("/".intercalate names) ("/".intercalate parts) = "/".intercalate (names ++ parts) := by
  unfold joinTexts
  rw [if_neg relative]
  cases names with
  | nil => simp
  | cons name rest =>
    have filled := joined_ne_empty (valid name List.mem_cons_self).nonempty rest
    have last := last_joined_ne valid
    rw [if_neg, String.intercalate_append_of_ne_nil (List.cons_ne_nil _ _) some_]
    rw [Bool.or_eq_true, not_or, decide_eq_true_eq]
    exact ⟨by simpa using filled, last⟩

/-! ## On the stack -/

section Stack

variable (rooted : Bool) {parts : List String}

/-- Two dots take a name off. -/
theorem normalStep_dots {name : String} (valid : ValidName name) :
    normalStep rooted (name :: parts) ".." = parts := by
  simp [normalStep, valid.noDots]

/-- As many times two dots as there are names take them all off. -/
theorem foldl_dots {names : List String} (valid : ∀ name ∈ names, ValidName name) :
    (List.replicate names.length "..").foldl (normalStep rooted) (names ++ parts) = parts := by
  induction names with
  | nil => rfl
  | cons name rest ih =>
    rw [List.length_cons, List.replicate_succ, List.foldl_cons, List.cons_append,
      normalStep_dots rooted (valid name List.mem_cons_self)]
    exact ih fun n member => valid n (List.mem_cons_of_mem _ member)

end Stack

/-! ## References -/

/-- The start of a relative reference that goes up a number of times: two dots each time, or a
single dot if it does not go up at all. -/
def climb : Nat → List String
  | 0 => ["."]
  | n + 1 => List.replicate (n + 1) ".."

/-- Parts of a path that lead nowhere: a single dot, an empty text, which doubles a slash, or a
detour into a directory and out again. -/
inductive Idle : List String → Prop
  | dot : Idle ["."]
  | slash : Idle [""]
  | detour {name : String} (valid : ValidName name) : Idle [name, ".."]

/-- The ways to write the names that lead down from a directory: as they are, or with parts that lead
nowhere put in anywhere. -/
inductive Respells : List String → List String → Prop
  | plain (names : List String) : Respells names names
  | insert {names more : List String} (before after : List String) (idle : Idle more)
      (h : Respells names (before ++ after)) : Respells names (before ++ more ++ after)

/-- Going up as often as there are names takes them off the stack. -/
theorem foldl_climb (rooted : Bool) {names : List String} (parts : List String)
    (valid : ∀ name ∈ names, ValidName name) :
    (climb names.length).foldl (normalStep rooted) (names ++ parts) = parts := by
  cases names with
  | nil => rfl
  | cons name rest => exact foldl_dots rooted valid

namespace Idle

variable {more : List String}

/-- Parts that lead nowhere leave the stack as it is. -/
theorem foldl_eq (h : Idle more) (rooted : Bool) (parts : List String) :
    more.foldl (normalStep rooted) parts = parts := by
  cases h with
  | dot => rfl
  | slash => rfl
  | detour valid =>
    rw [List.foldl_cons, normalStep_name rooted valid]
    exact normalStep_dots rooted valid

/-- Parts that lead nowhere have no slash. -/
theorem noSlash (h : Idle more) : ∀ part ∈ more, '/' ∉ part.toList := by
  cases h with
  | dot => decide
  | slash => decide
  | detour valid => simp [valid.noSlash]

/-- Parts that lead nowhere end in an empty text or in dots. -/
theorem getLast? (h : Idle more) : ∃ last ∈ ["", ".", ".."], more.getLast? = some last := by
  cases h with
  | dot => exact ⟨".", by simp, rfl⟩
  | slash => exact ⟨"", by simp, rfl⟩
  | detour valid => exact ⟨"..", by simp, rfl⟩

end Idle

namespace Respells

variable {names spelled : List String}

/-- Whatever is on the stack, the names alone lead to the same. -/
theorem foldl_eq (h : Respells names spelled) (rooted : Bool) (parts : List String) :
    spelled.foldl (normalStep rooted) parts = names.foldl (normalStep rooted) parts := by
  induction h with
  | plain => rfl
  | insert before after idle h ih =>
    rw [← ih, List.foldl_append, List.foldl_append, List.foldl_append, idle.foldl_eq]

/-- However names are spelled, no part has a slash. -/
theorem noSlash (h : Respells names spelled) (valid : ∀ name ∈ names, ValidName name) :
    ∀ part ∈ spelled, '/' ∉ part.toList := by
  induction h with
  | plain => exact fun part member => (valid part member).noSlash
  | insert before after idle h ih =>
    intro part member
    simp only [List.mem_append] at member ih
    rcases member with (front | inside) | back
    · exact ih part (Or.inl front)
    · exact idle.noSlash part inside
    · exact ih part (Or.inr back)

/-- The last part is the last name, or one that leads nowhere. -/
theorem getLast?_cases (h : Respells names spelled) :
    spelled.getLast? = names.getLast? ∨ ∃ last ∈ ["", ".", ".."], spelled.getLast? = some last := by
  induction h with
  | plain => exact Or.inl rfl
  | @insert more before after idle h ih =>
    obtain ⟨last, known, found⟩ := idle.getLast?
    cases after with
    | nil =>
      refine Or.inr ⟨last, known, ?_⟩
      rw [List.append_nil, List.getLast?_append, found]
      rfl
    | cons part rest =>
      have same : (before ++ more ++ part :: rest).getLast? =
          (before ++ part :: rest).getLast? := by
        simp [List.getLast?_append, List.getLast?_cons]
      rw [same]
      exact ih

/-- However names are spelled, there is a part. -/
theorem nonempty (h : Respells names spelled) (some_ : names ≠ []) : spelled ≠ [] := by
  induction h with
  | plain => exact some_
  | insert before after idle h ih =>
    obtain ⟨last, -, found⟩ := idle.getLast?
    intro empty
    simp only [List.append_eq_nil_iff] at empty
    simp [empty.1.2] at found

end Respells

section Climb

variable (n : Nat) {parts : List String}

/-- No part of the start of a reference has a slash. -/
theorem climb_noSlash : ∀ part ∈ climb n, '/' ∉ part.toList := by
  cases n with
  | zero => simp [climb]
  | succ n => simp [climb]

/-- The start of a reference has a part. -/
theorem climb_nonempty : climb n ≠ [] := by
  cases n <;> simp [climb, List.replicate_succ]

/-- A relative reference begins with a dot. -/
theorem head_climb : ("/".intercalate (climb n ++ parts)).toList.head? = some '.' := by
  cases n with
  | zero => exact head_joined (by decide) parts
  | succ n => exact head_joined (by decide) _

/-- What goes up, or starts with a single dot, is relative. -/
theorem isRelative_climb (some_ : parts ≠ []) :
    isRelative ("/".intercalate (climb n ++ parts)).toList = true := by
  unfold isRelative
  cases n with
  | zero =>
    rw [climb, joined_append (by simp) some_]
    simp
  | succ n =>
    have up : ∃ more, ("/".intercalate (climb (n + 1) ++ parts)).toList = '.' :: '.' :: more := by
      cases more : List.replicate n ".." ++ parts with
      | nil => exact absurd (List.append_eq_nil_iff.mp more).2 some_
      | cons part rest =>
        have split : climb (n + 1) ++ parts = [".."] ++ part :: rest := by
          rw [← more, climb, List.replicate_succ]
          rfl
        rw [split, joined_append (by simp) (by simp)]
        exact ⟨_, rfl⟩
    obtain ⟨more, starts⟩ := up
    rw [starts]
    simp [Text.occursIn]

end Climb

/-! ## Resolving -/

/-- A relative path is normalised part by part. -/
theorem normalText_joined {parts : List String} (some_ : parts ≠ [])
    (noSlash : ∀ part ∈ parts, '/' ∉ part.toList)
    (relative : ("/".intercalate parts).toList.head? ≠ some '/') :
    normalText ("/".intercalate parts) =
      (Path.mk 0 (parts.foldl (normalStep false) []).reverse).toString := by
  unfold normalText
  dsimp only
  rw [leadingSlashes_eq_zero relative, segments_joined some_ noSlash]
  rfl

/-- The way up to what a module and a file have in common, and down to the file, ends there. -/
theorem normalText_way {names target spelled : List String} {k : Nat}
    (validNames : ∀ name ∈ names, ValidName name) (validTarget : ∀ name ∈ target, ValidName name)
    (some_ : target ≠ []) (common : names.take k = target.take k)
    (respelled : Respells (target.drop k) spelled) :
    normalText ("/".intercalate (names ++ (climb (names.length - k) ++ spelled))) =
      "/".intercalate target := by
  have noSlash : ∀ part ∈ names ++ (climb (names.length - k) ++ spelled), '/' ∉ part.toList := by
    intro part member
    simp only [List.mem_append] at member
    rcases member with inNames | up | down
    · exact (validNames part inNames).noSlash
    · exact climb_noSlash _ part up
    · exact respelled.noSlash (fun name own => validTarget name (List.mem_of_mem_drop own)) part down
  have relative : ("/".intercalate (names ++ (climb (names.length - k) ++ spelled))).toList.head? ≠
      some '/' := by
    cases names with
    | nil =>
      rw [List.nil_append, head_climb]
      decide
    | cons name rest =>
      have first := validNames name List.mem_cons_self
      rw [List.cons_append, head_joined first.nonempty]
      exact first.head_ne
  rw [normalText_joined (by simp [climb_nonempty]) noSlash relative]
  -- The names of the module are on the stack, and those that are not common are taken off.
  have pushed : names.foldl (normalStep false) [] =
      (names.drop k).reverse ++ (names.take k).reverse := by
    rw [foldl_names false validNames, List.append_nil, ← List.reverse_append, List.take_append_drop]
  have above : ∀ name ∈ (names.drop k).reverse, ValidName name := fun name member =>
    validNames name (List.mem_of_mem_drop (List.mem_reverse.mp member))
  have up := foldl_climb false (names.take k).reverse above
  rw [List.length_reverse, List.length_drop] at up
  have down : ∀ name ∈ target.drop k, ValidName name := fun name member =>
    validTarget name (List.mem_of_mem_drop member)
  rw [List.foldl_append, List.foldl_append, pushed, up, respelled.foldl_eq, foldl_names false down,
    common, ← List.reverse_append, List.take_append_drop, List.reverse_reverse]
  simp [Path.toString, some_]

/-- A reference has no blanks at its ends, if the target has none at its end. -/
theorem trim_reference {target spelled : List String} {n k : Nat} (below : k < target.length)
    (valid : ∀ name ∈ target, ValidName name)
    (clear : ∀ c ∈ ("/".intercalate target).toList.getLast?, Text.isBlank c = false)
    (respelled : Respells (target.drop k) spelled) :
    Text.trim ("/".intercalate (climb n ++ spelled)).toList =
      ("/".intercalate (climb n ++ spelled)).toList := by
  have some_ : target.drop k ≠ [] := by simpa using below
  -- The last part is one that leads nowhere or the last name of the file.
  have ends : ∀ c ∈ ("/".intercalate (climb n ++ spelled)).toList.getLast?,
      Text.isBlank c = false := by
    intro c last
    cases final : spelled.getLast? with
    | none => exact absurd (List.getLast?_eq_none_iff.mp final) (respelled.nonempty some_)
    | some part =>
      obtain ⟨front, rfl⟩ := List.getLast?_eq_some_iff.mp final
      rw [← List.append_assoc] at last
      rcases respelled.getLast?_cases with own | ⟨idle, known, other⟩
      · rw [final, List.getLast?_drop, if_neg (by omega)] at own
        obtain ⟨init, rfl⟩ := List.getLast?_eq_some_iff.mp own.symm
        have nonempty := (valid part (by simp)).nonempty
        rw [last_joined _ nonempty] at last
        refine clear c ?_
        rw [last_joined _ nonempty]
        exact last
      · obtain rfl : part = idle := Option.some.inj (final.symm.trans other)
        simp only [List.mem_cons, List.not_mem_nil, or_false] at known
        rcases known with rfl | rfl | rfl
        · rw [last_joined_slash (by simp [climb_nonempty])] at last
          rw [← Option.some.inj last]
          decide
        · rw [last_joined _ (by decide)] at last
          rw [← Option.some.inj last]
          decide
        · rw [last_joined _ (by decide)] at last
          rw [← Option.some.inj last]
          decide
  refine Text.trim_of_ends ?_ ends
  intro c first
  rw [head_climb] at first
  rw [← Option.some.inj first]
  decide

/-- A pair of angle brackets around a reference makes no difference. -/
theorem resolveDependency_wrapped {reference : String} (path : String)
    (trimmed : Text.trim reference.toList = reference.toList)
    (bare : reference.toList.head? ≠ some '<') :
    resolveDependency ("<" ++ reference ++ ">") path = resolveDependency reference path := by
  have spelled : ("<" ++ reference ++ ">").toList = '<' :: (reference.toList ++ ['>']) := by simp
  have whole : Text.trim ("<" ++ reference ++ ">").toList = '<' :: (reference.toList ++ ['>']) := by
    rw [spelled]
    apply Text.trim_of_ends
    · simp only [List.head?_cons, Option.mem_def, Option.some.injEq, forall_eq']
      decide
    · rw [← List.cons_append, List.getLast?_concat]
      simp only [Option.mem_def, Option.some.injEq, forall_eq']
      decide
  have stripped : stripAngles ('<' :: (reference.toList ++ ['>'])) = stripAngles reference.toList := by
    have left : stripAngles reference.toList = reference.toList := by
      simp [stripAngles, bare]
    rw [left, stripAngles, ← List.cons_append, List.getLast?_concat]
    simp
  rw [resolveDependency, resolveDependency, whole, stripped, trimmed]

/-- A path that has a module is found as a reference. -/
theorem Graph.find_of_get {g : Graph} {path : String} {m : Module} (nonempty : path ≠ "")
    (h : g.get? path = some m) : g.find? path = some m := by
  obtain ⟨before, after, same, fresh⟩ := List.lookup_eq_some_iff.mp h
  have first : (g.modules.find? fun e => e.1 = path) = some (path, m) := by
    rw [same, List.find?_append, List.find?_eq_none.mpr]
    · simp
    · intro e member
      have differs : (path == e.1) = false := by simpa using fresh e member
      simpa using Ne.symm (beq_eq_false_iff_ne.mp differs)
  rw [Graph.find?, Graph.resolve?, first]
  simp [nonempty]

/-- A reference from a module up to a directory that it shares with a file and down to the file is
resolved to the path of the file, however the way down is written, also in angle brackets. In a graph
with a module at that path it is resolved to this module. -/
theorem resolveDependency_reaches (names target spelled : List String) (file : String) (k : Nat)
    (valid : ∀ name ∈ names ++ file :: target, ValidName name)
    (inTarget : k < target.length)
    (common : names.take k = target.take k)
    (clear : ∀ c ∈ ("/".intercalate target).toList.getLast?, Text.isBlank c = false)
    (respelled : Respells (target.drop k) spelled) :
    let path := "/".intercalate (names ++ [file])
    let reference := "/".intercalate (climb (names.length - k) ++ spelled)
    ∀ written ∈ [reference, "<" ++ reference ++ ">"],
      resolveDependency written path = "/".intercalate target ∧
      (∀ m : Module, m.path = path →
        m.put written .dependency = m.addDependency ("/".intercalate target)) ∧
      ∀ (g : Graph) (m : Module), g.get? ("/".intercalate target) = some m →
        g.find? (resolveDependency written path) = some m := by
  intro path reference written member
  have validNames : ∀ name ∈ names ++ [file], ValidName name := fun name own =>
    valid name (by simp only [List.mem_append, List.mem_cons] at own ⊢; tauto)
  have above : ∀ name ∈ names, ValidName name := fun name own =>
    valid name (List.mem_append_left _ own)
  have validTarget : ∀ name ∈ target, ValidName name := fun name own =>
    valid name (List.mem_append_right _ (List.mem_cons_of_mem _ own))
  have some_ : target ≠ [] := List.ne_nil_of_length_pos (by omega)
  have left : spelled ≠ [] := respelled.nonempty (by simpa using inTarget)
  have head : reference.toList.head? = some '.' := head_climb _
  have trimmed := trim_reference (n := names.length - k) inTarget validTarget clear respelled
  have plain : resolveDependency reference path = "/".intercalate target := by
    have bare : stripAngles reference.toList = reference.toList := by
      simp [stripAngles, head]
    have joins := @joinTexts_joined _ (climb (names.length - k) ++ spelled) above (by simp [left])
      (by rw [head_climb]; decide)
    unfold resolveDependency
    rw [trimmed, bare]
    dsimp only
    rw [isRelative_climb _ left, if_pos rfl, String.ofList_toList, directoryOf_joined validNames,
      joins, normalText_way above validTarget some_ common respelled]
  have resolved : resolveDependency written path = "/".intercalate target := by
    simp only [List.mem_cons, List.not_mem_nil, or_false] at member
    rcases member with rfl | rfl
    · exact plain
    · rw [resolveDependency_wrapped path trimmed (by rw [head]; decide), plain]
  refine ⟨resolved, ?_, ?_⟩
  · intro m here
    rw [Module.put, here, resolved]
  · intro g m found
    rw [resolved]
    obtain ⟨name, rest, rfl⟩ := List.exists_cons_of_ne_nil some_
    exact g.find_of_get (joined_ne_empty (validTarget name List.mem_cons_self).nonempty rest) found


/-- From a module two directories down, up by one and down again, with a detour in between. -/
theorem resolveDependency_reaches_over_detour :
    (∀ name ∈ ["pkg", "a"] ++ "a.go" :: ["pkg", "b..c", "x.go"], ValidName name) ∧
    1 < ["pkg", "b..c", "x.go"].length ∧
    ["pkg", "a"].take 1 = ["pkg", "b..c", "x.go"].take 1 ∧
    (∀ c ∈ ("/".intercalate ["pkg", "b..c", "x.go"]).toList.getLast?, Text.isBlank c = false) ∧
    Respells ["b..c", "x.go"] ["", "tmp", "..", "b..c", ".", "x.go"] ∧
    resolveDependency "<..//tmp/../b..c/./x.go>" "pkg/a/a.go" = "pkg/b..c/x.go" := by
  have valid : ∀ name ∈ ["pkg", "a"] ++ "a.go" :: ["pkg", "b..c", "x.go"], ValidName name := by
    intro name member
    simp only [List.cons_append, List.nil_append, List.mem_cons, List.not_mem_nil, or_false] at member
    rcases member with rfl | rfl | rfl | rfl | rfl | rfl <;>
      exact ⟨by decide, by decide, by decide, by decide⟩
  have clear : ∀ c ∈ ("/".intercalate ["pkg", "b..c", "x.go"]).toList.getLast?,
      Text.isBlank c = false := by
    have last : ("/".intercalate ["pkg", "b..c", "x.go"]).toList.getLast? = some 'o' := by decide
    rw [last]
    rintro c ⟨⟩
    decide
  have detour : Idle ["tmp", ".."] := .detour ⟨by decide, by decide, by decide, by decide⟩
  have respelled : Respells ["b..c", "x.go"] ["", "tmp", "..", "b..c", ".", "x.go"] :=
    .insert [] ["tmp", "..", "b..c", ".", "x.go"] .slash
      (.insert [] ["b..c", ".", "x.go"] detour (.insert ["b..c"] ["x.go"] .dot (.plain _)))
  refine ⟨valid, by decide, rfl, clear, respelled, ?_⟩
  exact (resolveDependency_reaches ["pkg", "a"] ["pkg", "b..c", "x.go"] _ "a.go" 1 valid (by decide) rfl
    clear respelled _ (List.mem_cons_of_mem _ List.mem_cons_self)).1

end DocGraph
