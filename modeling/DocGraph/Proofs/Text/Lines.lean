import DocGraph.Proofs.Text.Blank

/-!
# The lines of a text

A break ends the first line, and the lines of what is behind it are the other ones. So cutting a text
into lines loses nothing but the breaks, and each line can be found again in the text: `LineAt` says
where. In a text without carriage returns every break is a single character, and a line stands behind as
many of them as there are lines before it.
-/

set_option autoImplicit false

namespace DocGraph.Text

/-! ## Texts on one line -/

/-- What has no other characters is on one line, too. -/
theorem Unbroken.of_subset {s t : List Char} (h : Unbroken s) (part : t ⊆ s) : Unbroken t :=
  fun c known => h c (part known)

/-- A line is on one line backwards as well. -/
theorem Unbroken.reverse {s : List Char} (h : Unbroken s) : Unbroken s.reverse :=
  fun c known => h c (List.mem_reverse.mp known)

/-- The rest of a line is on one line. -/
theorem Unbroken.tail {c : Char} {s : List Char} (h : Unbroken (c :: s)) : Unbroken s :=
  h.of_subset (List.subset_cons_self c s)

/-- What is left of a line is on one line. -/
theorem Unbroken.dropWhile {s : List Char} (h : Unbroken s) (p : Char → Bool) :
    Unbroken (s.dropWhile p) :=
  h.of_subset (List.dropWhile_suffix p).subset

/-- Lines that are read on from a line have no breaks. -/
theorem unbroken_of_mem_linesFrom {complete : List (List Char)} {line s : List Char}
    (before : ∀ l ∈ complete, Unbroken l) (begun : Unbroken line) :
    ∀ l ∈ linesFrom complete line s, Unbroken l := by
  fun_induction linesFrom complete line s with
  | case1 complete line =>
    intro l known
    rw [List.mem_reverse] at known
    split at known
    · exact before l known
    · rcases List.mem_cons.mp known with rfl | known
      · exact begun.reverse
      · exact before l known
  | case2 complete line rest ih =>
    exact ih (List.forall_mem_cons.mpr ⟨begun.reverse, before⟩) (by decide)
  | case3 complete line c rest noPair broken ih =>
    exact ih (List.forall_mem_cons.mpr ⟨begun.reverse, before⟩) (by decide)
  | case4 complete line c rest noPair whole ih =>
    exact ih before (List.forall_mem_cons.mpr ⟨eq_false_of_ne_true whole, begun⟩)

/-- The lines of a text have no breaks. -/
theorem unbroken_of_mem_lines {s l : List Char} (h : l ∈ lines s) : Unbroken l :=
  unbroken_of_mem_linesFrom (by simp) (by decide) l h

/-- A line without the blanks at its ends is on one line. -/
theorem unbroken_trim {s : List Char} (h : Unbroken s) : Unbroken (trim s) := by
  have front : Unbroken (trimFront s) := h.dropWhile isBlank
  exact front.of_subset (trimBack_isPrefix _).subset

/-! ## Cutting into lines -/

/-- What has no break goes onto the line that has begun. -/
theorem linesFrom_unbroken {l : List Char} (h : Unbroken l) (complete : List (List Char))
    (line rest : List Char) :
    linesFrom complete line (l ++ rest) = linesFrom complete (l.reverse ++ line) rest := by
  induction l generalizing line with
  | nil => rfl
  | cons c l ih =>
    have whole : isLineBreak c = false := h c (by simp)
    have noReturn : c ≠ '\r' := by
      rintro rfl
      cases whole
    rw [List.cons_append, linesFrom, whole]
    · rw [if_neg (by simp), ih fun d known => h d (by simp [known])]
      simp
    · exact fun s same => absurd same noReturn

/-- Lines that are complete stay in front. -/
theorem linesFrom_append (complete more : List (List Char)) (line s : List Char) :
    linesFrom (complete ++ more) line s = more.reverse ++ linesFrom complete line s := by
  fun_induction linesFrom complete line s with
  | case1 complete line =>
    rw [linesFrom]
    split <;> simp
  | case2 complete line rest ih =>
    rw [linesFrom]
    exact ih
  | case3 complete line c rest noPair broken ih =>
    rw [linesFrom, if_pos broken]
    · exact ih
    · exact noPair
  | case4 complete line c rest noPair whole ih =>
    rw [linesFrom, if_neg whole]
    · exact ih
    · exact noPair

/-- A line that a break ends is the first one. -/
theorem lines_append_break {l : List Char} (h : Unbroken l) {c : Char}
    (broken : isLineBreak c = true) (noReturn : c ≠ '\r') (s : List Char) :
    lines (l ++ c :: s) = l :: lines s := by
  have first := linesFrom_append [] [l] [] s
  unfold lines
  rw [linesFrom_unbroken h, linesFrom, if_pos broken]
  · simpa using first
  · exact fun _ same => absurd same noReturn

/-- What no break ends is a line if it is not empty. -/
theorem lines_unbroken {l : List Char} (h : Unbroken l) :
    lines l = if l.isEmpty then [] else [l] := by
  have all := linesFrom_unbroken h [] [] []
  rw [List.append_nil, List.append_nil] at all
  rw [lines, all, linesFrom]
  cases l with
  | nil => rfl
  | cons c l => simp

/-! ## Where a line stands -/

/-- A line of a text, with what stands before it and behind it. -/
structure LineAt (s before line behind : List Char) : Prop where
  whole : s = before ++ (line ++ behind)
  unbroken : Unbroken line
  starts : ∀ c ∈ before.getLast?, isLineBreak c = true
  ends : ∀ c ∈ behind.head?, isLineBreak c = true

/-- A text is on one line, or has a first break. -/
theorem unbroken_or_exists_break (s : List Char) :
    Unbroken s ∨ ∃ l c rest, s = l ++ c :: rest ∧ Unbroken l ∧ isLineBreak c = true := by
  induction s with
  | nil => exact Or.inl (by simp [Unbroken])
  | cons c s ih =>
    cases broken : isLineBreak c with
    | true => exact Or.inr ⟨[], c, s, rfl, by simp [Unbroken], broken⟩
    | false =>
      rcases ih with whole | ⟨l, d, rest, rfl, front, break_⟩
      · exact Or.inl (List.forall_mem_cons.mpr ⟨broken, whole⟩)
      · exact Or.inr ⟨c :: l, d, rest, rfl, List.forall_mem_cons.mpr ⟨broken, front⟩, break_⟩

/-- Without carriage returns, each line but the first stands behind as many breaks as lines. -/
theorem exists_lineAt {s : List Char} (noReturn : '\r' ∉ s) {first later : List (List Char)}
    {line : List Char} (h : lines s = first ++ line :: later) :
    ∃ before behind, LineAt s before line behind ∧ lines before = first ∧
      lines behind.tail = later ∧ before.countP isLineBreak = first.length := by
  induction first generalizing s with
  | nil =>
    rcases unbroken_or_exists_break s with whole | ⟨l, c, rest, rfl, front, broken⟩
    · rw [lines_unbroken whole] at h
      split at h
      · cases h
      · cases h
        exact ⟨[], [], ⟨by simp, whole, by simp, by simp⟩, rfl, rfl, rfl⟩
    · have single : c ≠ '\r' := by
        rintro rfl
        exact noReturn (by simp)
      rw [lines_append_break front broken single] at h
      cases h
      exact ⟨[], c :: rest, ⟨rfl, front, by simp, by simpa using broken⟩, rfl, rfl, rfl⟩
  | cons l' first ih =>
    rcases unbroken_or_exists_break s with whole | ⟨l, c, rest, rfl, front, broken⟩
    · rw [lines_unbroken whole] at h
      split at h
      · cases h
      · simp at h
    · have single : c ≠ '\r' := by
        rintro rfl
        exact noReturn (by simp)
      rw [lines_append_break front broken single, List.cons_append] at h
      obtain ⟨rfl, others⟩ := List.cons.inj h
      obtain ⟨before, behind, stands, earlier, further, count⟩ :=
        ih (fun member => noReturn (by simp [member])) others
      refine ⟨l ++ c :: before, behind, ⟨?_, stands.unbroken, ?_, stands.ends⟩, ?_, further, ?_⟩
      · rw [stands.whole]
        simp
      · rw [List.getLast?_append, List.getLast?_cons, Option.some_or]
        rintro d last
        cases end_ : before.getLast? with
        | none =>
          rw [end_] at last
          cases last
          exact broken
        | some b =>
          rw [end_] at last
          cases last
          exact stands.starts b end_
      · rw [lines_append_break front broken single, earlier]
      · have none_ : l.countP isLineBreak = 0 := List.countP_eq_zero.mpr (by simpa [Unbroken] using front)
        rw [List.countP_append, List.countP_cons_of_pos broken, none_, count, List.length_cons]
        omega

/-- Behind a break the lines start anew. -/
theorem lines_append {before s : List Char} (noReturn : '\r' ∉ before)
    (starts : ∀ c ∈ before.getLast?, isLineBreak c = true) :
    lines (before ++ s) = lines before ++ lines s := by
  induction count : before.length using Nat.strongRecOn generalizing before with
  | _ n ih =>
    rcases unbroken_or_exists_break before with whole | ⟨l, c, rest, rfl, front, broken⟩
    · rcases before.eq_nil_or_concat with rfl | ⟨l, c, rfl⟩
      · rfl
      · have ending := starts c (by simp)
        have inside := whole c (by simp)
        rw [ending] at inside
        cases inside
    · have single : c ≠ '\r' := by
        rintro rfl
        exact noReturn (by simp)
      have starts' : ∀ d ∈ rest.getLast?, isLineBreak d = true := by
        intro d last
        refine starts d ?_
        rw [List.getLast?_append, List.getLast?_cons, Option.some_or, Option.mem_def.mp last]
        rfl
      have less : rest.length < n := by
        simp at count
        omega
      rw [List.append_assoc, List.cons_append, lines_append_break front broken single,
        lines_append_break front broken single,
        ih rest.length less (fun member => noReturn (by simp [member])) starts' rfl,
        List.cons_append]

/-! ## A line feed between two texts -/

/-- A break ends the line that has begun, unless it is the first half of one. -/
theorem linesFrom_break {c : Char} (broken : isLineBreak c = true) {s : List Char}
    (single : ∀ rest, c = '\r' → s = '\n' :: rest → False) (complete : List (List Char))
    (line : List Char) :
    linesFrom complete line (c :: s) = linesFrom (line.reverse :: complete) [] s := by
  rw [linesFrom, if_pos broken]
  exact single

/-- Behind a line feed lines are read anew. -/
theorem exists_linesFrom_append_lineFeed (complete : List (List Char)) (line s : List Char) :
    ∃ blank : List (List Char), (∀ l ∈ blank, l = []) ∧ ∀ t,
      linesFrom complete line (s ++ '\n' :: t) = linesFrom complete line s ++ (blank ++ lines t) := by
  have anew : ∀ complete t, linesFrom complete [] t = complete.reverse ++ lines t := by
    intro complete t
    have behind := linesFrom_append [] complete [] t
    rwa [List.nil_append] at behind
  have broken_ : isLineBreak '\n' = true := by decide
  fun_induction linesFrom complete line s with
  | case1 complete line =>
    have feed : ∀ t, linesFrom complete line ('\n' :: t) =
        (line.reverse :: complete).reverse ++ lines t := by
      intro t
      rw [linesFrom_break broken_ (fun _ same => by cases same), anew]
    cases line with
    | nil => exact ⟨[[]], by simp, fun t => by simp [feed]⟩
    | cons c line => exact ⟨[], by simp, fun t => by simp [feed]⟩
  | case2 complete line rest ih =>
    obtain ⟨blank, empty, split⟩ := ih
    refine ⟨blank, empty, fun t => ?_⟩
    rw [← split t, List.cons_append, List.cons_append, linesFrom]
  | case3 complete line c rest noPair broken ih =>
    by_cases last : c = '\r' ∧ rest = []
    · -- A carriage return at the end makes one break with the line feed.
      obtain ⟨rfl, rfl⟩ := last
      refine ⟨[], by simp, fun t => ?_⟩
      simp only [List.cons_append, List.nil_append, linesFrom]
      exact anew _ t
    · have single : ∀ t more, c = '\r' → rest ++ '\n' :: t = '\n' :: more → False := by
        intro t more return_ feed
        cases rest with
        | nil => exact last ⟨return_, rfl⟩
        | cons d rest => exact noPair rest return_ (by rw [(List.cons.inj feed).1])
      obtain ⟨blank, empty, split⟩ := ih
      refine ⟨blank, empty, fun t => ?_⟩
      rw [← split t, List.cons_append, linesFrom_break broken (single t)]
  | case4 complete line c rest noPair whole ih =>
    have noReturn : c ≠ '\r' := by
      rintro rfl
      exact whole (by decide)
    obtain ⟨blank, empty, split⟩ := ih
    refine ⟨blank, empty, fun t => ?_⟩
    rw [← split t, List.cons_append, linesFrom, if_neg whole]
    exact fun _ same => absurd same noReturn

/-- Behind a line feed the lines start anew. At the end of a line it is no break of its own if a
carriage return stands before it; behind another break, an empty line ends there. -/
theorem exists_lines_append_lineFeed (s : List Char) :
    ∃ blank : List (List Char), (∀ l ∈ blank, l = []) ∧
      ∀ t, lines (s ++ '\n' :: t) = lines s ++ (blank ++ lines t) :=
  exists_linesFrom_append_lineFeed [] [] s

namespace LineAt

variable {s before line behind before' line' behind' : List Char}

/-- A line is one of the lines, behind those before it. -/
theorem lines (h : LineAt s before line behind) (noReturn : '\r' ∉ s) (some_ : line ≠ []) :
    Text.lines s = Text.lines before ++ line :: Text.lines behind.tail := by
  have whole := h.whole
  subst whole
  rw [lines_append (fun member => noReturn (by simp [member])) h.starts]
  congr 1
  cases behind with
  | nil =>
    rw [List.append_nil, lines_unbroken h.unbroken, if_neg (by simpa using some_)]
    rfl
  | cons c rest =>
    have single : c ≠ '\r' := by
      rintro rfl
      exact noReturn (by simp)
    rw [lines_append_break h.unbroken (h.ends c rfl) single, List.tail_cons]

/-- Of two lines, the one that stands first is among the lines before the other one. -/
theorem earlier (h : LineAt s before line behind) (h' : LineAt s before' line' behind')
    (noReturn : '\r' ∉ s) (less : before.length < before'.length) :
    ∃ more, Text.lines before' = Text.lines before ++ line :: more := by
  have same : before ++ (line ++ behind) = before' ++ (line' ++ behind') :=
    h.whole.symm.trans h'.whole
  have clean : '\r' ∉ before' := fun member => noReturn (by simp [h'.whole, member])
  rcases List.append_eq_append_iff.mp same with ⟨between, rfl, rest⟩ | ⟨between, rfl, -⟩
  · -- What is between ends with a break, so it goes beyond the line.
    have broken : ¬Unbroken between := by
      intro whole
      rcases between.eq_nil_or_concat with rfl | ⟨l, c, rfl⟩
      · simp at less
      · have ending := h'.starts c (by simp)
        have inside := whole c (by simp)
        rw [ending] at inside
        cases inside
    rcases List.append_eq_append_iff.mp rest with ⟨beyond, rfl, further⟩ | ⟨beyond, rfl, -⟩
    · cases beyond with
      | nil => exact absurd (by simpa using h.unbroken) broken
      | cons c beyond =>
        have ending := h.ends c (by simp [further])
        have single : c ≠ '\r' := by
          rintro rfl
          exact clean (by simp)
        refine ⟨Text.lines beyond, ?_⟩
        rw [lines_append (fun member => clean (by simp [member])) h.starts,
          lines_append_break h.unbroken ending single]
    · exact absurd (unbroken_append.mp h.unbroken).1 broken
  · rw [List.length_append] at less
    omega

/-- A line is what stands in front of the next break. -/
theorem takeWhile_eq (h : LineAt s before line behind) :
    (line ++ behind).takeWhile (fun c => !isLineBreak c) = line := by
  rw [List.takeWhile_append_of_pos fun c member => by simp [h.unbroken c member]]
  cases behind with
  | nil => simp
  | cons c rest => simp [h.ends c rfl]

/-- If neither of two lines stands before the other, they are one line. -/
theorem unique (h : LineAt s before line behind) (h' : LineAt s before' line' behind')
    (noReturn : '\r' ∉ s)
    (notBefore : ∀ more, Text.lines before' ≠ Text.lines before ++ line :: more)
    (notBehind : ∀ more, Text.lines before ≠ Text.lines before' ++ line' :: more) :
    before = before' ∧ line = line' := by
  have same : before ++ (line ++ behind) = before' ++ (line' ++ behind') :=
    h.whole.symm.trans h'.whole
  rcases Nat.lt_trichotomy before.length before'.length with less | lengths | less
  · obtain ⟨more, first⟩ := h.earlier h' noReturn less
    exact absurd first (notBefore more)
  · obtain ⟨rfl, rest⟩ := List.append_inj same lengths
    exact ⟨rfl, by rw [← h.takeWhile_eq, rest, h'.takeWhile_eq]⟩
  · obtain ⟨more, first⟩ := h'.earlier h noReturn less
    exact absurd first (notBehind more)

end LineAt

end DocGraph.Text
