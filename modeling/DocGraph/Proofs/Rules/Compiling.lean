import DocGraph.Proofs.Scan.Readable
import DocGraph.Proofs.Text.Blank
import DocGraph.Proofs.Text.Occurrence

/-!
# Globs that do not compile

A glob is compiled part by part. If some part cannot be read, because a set in it is not closed or a
backslash has nothing behind it, the glob is malformed; it compiles all the same, and matches
nothing. If all parts can be read and one of them has a set with a reversed range, compiling fails.
These are the only globs that do not compile.
-/

set_option autoImplicit false

namespace DocGraph

variable {text body : List Char} {texts : List (List Char)} {parts : List GlobPart}

/-! ## The parts of a pattern -/

/-- The texts of the parts once the start of a pattern is anchored or opened. -/
def anchoredTexts : List (List Char) → List (List Char)
  | [] :: rest => rest
  | [only] => if only = ['*', '*'] then [only] else [['*', '*'], only]
  | [only, []] => if only = ['*', '*'] then [only, []] else [['*', '*'], only, []]
  | several => several

/-- The texts of the parts once a slash at the end of a pattern stands for everything below. -/
def endedTexts (texts : List (List Char)) : List (List Char) :=
  if texts.getLast? = some [] then texts.dropLast ++ [['*', '*']] else texts

/-- The parts of a pattern, step by step. -/
theorem globParts_eq (body : List Char) :
    globParts body =
      collapse ((endedTexts (anchoredTexts (body.splitOn '/'))).map GlobPart.ofText) := by
  rw [← Text.splitOn_eq]
  rfl

/-- Anchoring a pattern changes no text that is neither empty nor made of two stars. -/
theorem mem_anchoredTexts (filled : text ≠ []) (named : text ≠ ['*', '*']) :
    text ∈ anchoredTexts texts ↔ text ∈ texts := by
  unfold anchoredTexts
  split
  · simp [filled]
  · split <;> simp [named]
  · split <;> simp [named]
  · rfl

/-- Ending a pattern changes no text that is neither empty nor made of two stars. -/
theorem mem_endedTexts (filled : text ≠ []) (named : text ≠ ['*', '*']) :
    text ∈ endedTexts texts ↔ text ∈ texts := by
  unfold endedTexts
  split
  next last =>
    obtain ⟨before, rfl⟩ := List.getLast?_eq_some_iff.mp last
    simp [filled, named]
  · rfl

/-- Keeping one of several directory parts does away with no form. -/
theorem form_mem_collapse : .form text ∈ collapse parts ↔ .form text ∈ parts := by
  fun_induction collapse parts with
  | case1 rest ih => simp [ih]
  | case2 part rest different ih => simp [ih]
  | case3 => rfl

/-- A form has the text that it was made of. -/
theorem ofText_eq_form {other : List Char} (h : GlobPart.ofText other = .form text) :
    other = text := by
  unfold GlobPart.ofText at h
  split at h
  · cases h
  · split at h
    · cases h
    · exact GlobPart.form.inj h

/-- What stands between the slashes of a pattern is read as a form, unless it is nothing, a star or
two. -/
theorem form_mem_globParts (filled : text ≠ []) (star : text ≠ ['*']) (stars : text ≠ ['*', '*']) :
    .form text ∈ globParts body ↔ text ∈ body.splitOn '/' := by
  rw [globParts_eq, form_mem_collapse, List.mem_map]
  constructor
  · rintro ⟨other, member, read⟩
    obtain rfl := ofText_eq_form read
    exact (mem_anchoredTexts filled stars).mp ((mem_endedTexts filled stars).mp member)
  · intro member
    refine ⟨text, (mem_endedTexts filled stars).mpr ((mem_anchoredTexts filled stars).mpr member), ?_⟩
    rw [GlobPart.ofText, if_neg stars, if_neg star]

/-! ## The pieces of the parts -/

/-- A text cannot be read as a form: a set in it is not closed, or it ends in a backslash. -/
def Unreadable (text : List Char) : Prop :=
  formPieces text = none

/-- A text can be read as a form, with a set in it that has a reversed range. -/
def HoldsReversed (text : List Char) : Prop :=
  ∃ ps, formPieces text = some ps ∧ ps.any Piece.isReversed = true

/-- What is made of parts: nothing if one of them cannot be read, and otherwise pieces of which one
is reversed if one of the parts holds it. -/
def PiecesTell (parts : List GlobPart) : Option (List Piece) → Prop
  | none => ∃ text, .form text ∈ parts ∧ Unreadable text
  | some ps => (∀ text, .form text ∈ parts → ¬Unreadable text) ∧
      (ps.any Piece.isReversed = true ↔ ∃ text, .form text ∈ parts ∧ HoldsReversed text)

/-- The pieces of a part go in front of those of the parts behind it. -/
theorem PiecesTell.cons {pieces : Option (List Piece)} (h : PiecesTell parts pieces)
    {part : GlobPart} {more : List Piece} (readable : ∀ text, part = .form text → ¬Unreadable text)
    (tells : more.any Piece.isReversed = true ↔ ∃ text, part = .form text ∧ HoldsReversed text) :
    PiecesTell (part :: parts) (pieces.map (more ++ ·)) := by
  cases pieces with
  | none =>
    obtain ⟨text, member, unreadable⟩ := h
    exact ⟨text, List.mem_cons_of_mem _ member, unreadable⟩
  | some ps =>
    obtain ⟨others, reversed⟩ := h
    refine ⟨fun text member => ?_, ?_⟩
    · rcases List.mem_cons.mp member with here | later
      · exact readable text here.symm
      · exact others text later
    · rw [List.any_append, Bool.or_eq_true, tells, reversed]
      simp only [List.mem_cons, or_and_right, exists_or, eq_comm]

/-- The pieces of a name, with a slash in front of it and the end behind it where they belong. -/
def framed (slash last : Bool) (ps : List Piece) : List Piece :=
  (if slash then [.char '/'] else []) ++ ps ++ if last then [.boundary] else []

/-- What is put around the pieces of a part holds no reversed range. -/
theorem any_framed (slash last : Bool) (ps : List Piece) :
    (framed slash last ps).any Piece.isReversed = ps.any Piece.isReversed := by
  cases slash <;> cases last <;> simp [framed, Piece.isReversed]

/-- The pieces of a part that matches any name. -/
theorem partPieces_name (rest : List GlobPart) (first slash : Bool) :
    partPieces first slash (.name :: rest) =
      (partPieces false true rest).map (framed slash rest.isEmpty [.anyChar, .star] ++ ·) := by
  rw [partPieces]
  cases partPieces false true rest <;> rfl

/-- The pieces of a part that can be read as a form. -/
theorem partPieces_form {ps : List Piece} (read : formPieces text = some ps)
    (rest : List GlobPart) (first slash : Bool) :
    partPieces first slash (.form text :: rest) =
      (partPieces false true rest).map (framed slash rest.isEmpty ps ++ ·) := by
  rw [partPieces, read]
  cases partPieces false true rest <;> rfl

/-- Whether there are pieces of parts, and whether one of them is reversed, is told by the forms. -/
theorem partPieces_tells (parts : List GlobPart) (first slash : Bool) :
    PiecesTell parts (partPieces first slash parts) := by
  induction parts generalizing first slash with
  | nil => simp [partPieces, PiecesTell]
  | cons part rest ih =>
    cases part with
    | directories =>
      have formless : ∀ piece : Piece, piece = .leading ∨ piece = .inner →
          ∀ pieces, PiecesTell rest pieces →
            PiecesTell (.directories :: rest) (pieces.map ([piece] ++ ·)) := by
        rintro piece either pieces tell
        refine tell.cons (by simp) ?_
        rcases either with rfl | rfl <;> simp [Piece.isReversed]
      unfold partPieces
      split
      next last =>
        rw [List.isEmpty_iff.mp last]
        simp [PiecesTell, Piece.isReversed]
      · split
        · exact formless _ (Or.inl rfl) _ (ih false false)
        · exact formless _ (Or.inr rfl) _ (ih false true)
    | name =>
      rw [partPieces_name]
      refine (ih false true).cons (by simp) ?_
      rw [any_framed]
      simp [Piece.isReversed]
    | form text =>
      cases read : formPieces text with
      | none =>
        have none_ : partPieces first slash (.form text :: rest) = none := by
          rw [partPieces, read]
          rfl
        rw [none_]
        exact ⟨text, List.mem_cons_self, read⟩
      | some ps =>
        rw [partPieces_form read]
        refine (ih false true).cons ?_ ?_
        · rintro other ⟨⟩ unreadable
          cases read.symm.trans unreadable
        · rw [any_framed]
          simp [HoldsReversed, read]

/-! ## Reversed ranges -/

/-- A text has an opening bracket, and somewhere behind it a dash between two characters that are in
the wrong order. -/
def SpellsReversed (text : List Char) : Prop :=
  ∃ before within low high behind,
    text = before ++ '[' :: (within ++ low :: '-' :: high :: behind) ∧ high < low

/-- A text spells a reversed range if a piece of it does. -/
theorem SpellsReversed.mono {whole : List Char} (h : SpellsReversed text)
    (inside : text <:+: whole) : SpellsReversed whole := by
  obtain ⟨before, within, low, high, behind, rfl, reversed⟩ := h
  obtain ⟨front, back, rfl⟩ := inside
  exact ⟨front ++ before, within, low, high, behind ++ back, by simp, reversed⟩

/-- A range is two characters with a dash between them, or a single character. -/
theorem exists_of_reversed_range {content : List Char}
    (h : ((classRanges content).any fun r => r.high < r.low) = true) :
    ∃ before low high behind, content = before ++ low :: '-' :: high :: behind ∧ high < low := by
  fun_induction classRanges content with
  | case1 low high rest ih =>
    rw [List.any_cons, Bool.or_eq_true, decide_eq_true_iff] at h
    rcases h with here | later
    · exact ⟨[], low, high, rest, rfl, here⟩
    · obtain ⟨before, low', high', behind, rfl, reversed⟩ := ih later
      exact ⟨low :: '-' :: high :: before, low', high', behind, rfl, reversed⟩
  | case2 c rest single ih =>
    rw [List.any_cons, Bool.or_eq_true, decide_eq_true_iff] at h
    rcases h with here | later
    · exact absurd here (lt_irrefl c)
    · obtain ⟨before, low, high, behind, rfl, reversed⟩ := ih later
      exact ⟨c :: before, low, high, behind, rfl, reversed⟩
  | case3 => cases h

/-- The content of a set stands in front of its closing bracket. -/
theorem eq_of_classContent {s content after : List Char}
    (h : classContent? s = some (content, after)) : s = content ++ ']' :: after := by
  have whole : (leadingBracket s).1 ++ (leadingBracket s).2 = s := by
    unfold leadingBracket
    split <;> rfl
  unfold classContent? at h
  dsimp only at h
  split at h
  · cases h
  next c after' closed =>
    obtain ⟨rfl, rfl⟩ := Prod.mk.inj (Option.some.inj h)
    have bracket : c = ']' := by
      have := List.head?_dropWhile_not (· != ']') (leadingBracket s).2
      rw [closed] at this
      simpa using this
    rw [bracket] at closed
    rw [List.append_assoc, ← closed, List.takeWhile_append_dropWhile, whole]

/-- What is left behind the negation of a set is an end of the text. -/
theorem isSuffix_classNegation (s : List Char) : (classNegation s).2 <:+ s := by
  unfold classNegation
  split
  · exact List.suffix_cons _ _
  · exact List.suffix_cons _ _
  · exact List.suffix_rfl

/-- A reversed range is that of the first piece or comes later. -/
theorem reversed_of_cons {piece : Piece} {rest : List Char} {ps : List Piece}
    (read : (formPieces rest).map (piece :: ·) = some ps)
    (reversed : ps.any Piece.isReversed = true) :
    piece.isReversed = true ∨
      ∃ qs, formPieces rest = some qs ∧ qs.any Piece.isReversed = true := by
  obtain ⟨qs, later, rfl⟩ := Option.map_eq_some_iff.mp read
  rw [List.any_cons, Bool.or_eq_true] at reversed
  exact reversed.imp_right fun some_ => ⟨qs, later, some_⟩

/-- A reversed range that is not that of the first piece is spelled behind it. -/
theorem spellsReversed_of_cons {piece : Piece} {rest : List Char} {ps : List Piece}
    (later : ∀ qs, formPieces rest = some qs → qs.any Piece.isReversed = true → SpellsReversed rest)
    (straight : piece.isReversed = false) (inside : rest <:+: text)
    (read : (formPieces rest).map (piece :: ·) = some ps)
    (reversed : ps.any Piece.isReversed = true) : SpellsReversed text := by
  rcases reversed_of_cons read reversed with here | ⟨qs, readable, some_⟩
  · cases here.symm.trans straight
  · exact (later qs readable some_).mono inside

/-- A form that holds a reversed range spells it. -/
theorem HoldsReversed.spells (h : HoldsReversed text) : SpellsReversed text := by
  obtain ⟨ps, read, reversed⟩ := h
  fun_induction formPieces text generalizing ps with
  | case1 =>
    cases read
    cases reversed
  | case2 c rest ih => exact spellsReversed_of_cons ih rfl ⟨['\\', c], [], by simp⟩ read reversed
  | case3 => cases read
  | case4 rest ih =>
    exact spellsReversed_of_cons ih rfl (List.suffix_cons _ _).isInfix read reversed
  | case5 rest ih =>
    exact spellsReversed_of_cons ih rfl (List.suffix_cons _ _).isInfix read reversed
  | case6 rest content after closed ih =>
    obtain ⟨mark, split_⟩ := isSuffix_classNegation rest
    rw [eq_of_classContent closed] at split_
    subst split_
    rcases reversed_of_cons read reversed with here | ⟨qs, later, some_⟩
    · obtain ⟨within, low, high, behind, rfl, wrong⟩ := exists_of_reversed_range here
      exact ⟨[], mark ++ within, low, high, behind ++ ']' :: after, by simp, wrong⟩
    · exact (ih qs later some_).mono ⟨'[' :: (mark ++ content ++ [']']), [], by simp⟩
  | case7 rest open_ => cases read
  | case8 c rest _ _ _ _ _ ih =>
    exact spellsReversed_of_cons ih rfl (List.suffix_cons _ _).isInfix read reversed

/-! ## Compiling -/

/-- The text between two slashes of which something is known that is not known of nothing, a star or
two is the text of a form. -/
theorem exists_form_iff {p : List Char → Prop}
    (special : ∀ text ∈ [[], ['*'], ['*', '*']], ¬p text) :
    (∃ text, .form text ∈ globParts body ∧ p text) ↔ ∃ text ∈ body.splitOn '/', p text := by
  simp only [List.forall_mem_cons, List.not_mem_nil, false_implies, implies_true, and_true]
    at special
  obtain ⟨nothing, star, stars⟩ := special
  refine exists_congr fun text => and_congr_left fun known => form_mem_globParts ?_ ?_ ?_
  · rintro rfl
    exact nothing known
  · rintro rfl
    exact star known
  · rintro rfl
    exact stars known

/-- Stars alone, and the empty text, can be read. -/
theorem unreadable_special : ∀ text ∈ [[], ['*'], ['*', '*']], ¬Unreadable text := by
  simp [Unreadable, formPieces]

/-- Stars alone, and the empty text, hold no reversed range. -/
theorem holdsReversed_special : ∀ text ∈ [[], ['*'], ['*', '*']], ¬HoldsReversed text := by
  simp [HoldsReversed, formPieces, Piece.isReversed]

/-- A pattern of directories and names compiles, and for any other one its pieces decide. -/
theorem compileBody_cases (body : List Char) :
    ((∀ text, .form text ∉ globParts body) ∧ ∃ g, compileBody body = .ok g) ∨
      compileBody body =
        match partPieces true false (globParts body) with
        | none => .ok .never
        | some ps => if ps.any Piece.isReversed then .error .reversedRange else .ok (.pieces ps) := by
  unfold compileBody
  split
  next formless => exact Or.inl ⟨by simp [formless], _, rfl⟩
  next formless => exact Or.inl ⟨by simp [formless], _, rfl⟩
  next formless => exact Or.inl ⟨by simp [formless], _, rfl⟩
  next formless => exact Or.inl ⟨by simp [formless], _, rfl⟩
  next => exact Or.inr rfl

/-- A pattern of which a part cannot be read matches nothing. -/
theorem compileBody_of_unreadable (h : ∃ text ∈ body.splitOn '/', Unreadable text) :
    compileBody body = .ok .never := by
  obtain ⟨text, member, unreadable⟩ := (exists_form_iff unreadable_special).mpr h
  rcases compileBody_cases body with ⟨formless, -⟩ | same
  · exact absurd member (formless text)
  · have tell := partPieces_tells (globParts body) true false
    rw [same]
    cases made : partPieces true false (globParts body) with
    | none => rfl
    | some ps =>
      rw [made] at tell
      exact absurd unreadable (tell.1 text member)

/-- Compiling a pattern fails exactly if all its parts can be read and one of them holds a reversed
range. -/
theorem compileBody_eq_error_iff (e : GlobError) :
    compileBody body = .error e ↔
      (∀ text ∈ body.splitOn '/', ¬Unreadable text) ∧ ∃ text ∈ body.splitOn '/', HoldsReversed text := by
  by_cases readable : ∃ text ∈ body.splitOn '/', Unreadable text
  · rw [compileBody_of_unreadable readable]
    obtain ⟨text, member, unreadable⟩ := readable
    constructor
    · intro impossible
      cases impossible
    · rintro ⟨all, -⟩
      exact absurd unreadable (all text member)
  · have all : ∀ text ∈ body.splitOn '/', ¬Unreadable text :=
      fun text member unreadable => readable ⟨text, member, unreadable⟩
    rw [and_iff_right all, ← exists_form_iff holdsReversed_special]
    rcases compileBody_cases body with ⟨formless, g, compiled⟩ | same
    · rw [compiled]
      constructor
      · intro impossible
        cases impossible
      · rintro ⟨text, member, -⟩
        exact absurd member (formless text)
    · have tell := partPieces_tells (globParts body) true false
      rw [same]
      cases made : partPieces true false (globParts body) with
      | none =>
        rw [made] at tell
        exact absurd ((exists_form_iff unreadable_special).mp tell) readable
      | some ps =>
        rw [made] at tell
        rw [← tell.2]
        cases e
        dsimp only
        split
        next reversed => simp [reversed]
        next straight => simp [straight]

namespace Glob

variable {pattern : String}

/-- The texts between the slashes of a pattern, without the blanks at its end and without an
exclamation mark at its start. A comment has none. -/
def partTexts (pattern : String) : List (List Char) :=
  match trimPattern pattern.toList with
  | '#' :: _ => []
  | '!' :: body => body.splitOn '/'
  | body => body.splitOn '/'

/-- A pattern is malformed if one of its parts cannot be read. -/
def Malformed (pattern : String) : Prop :=
  ∃ text ∈ partTexts pattern, Unreadable text

/-- A pattern that is not malformed has a set with a reversed range. -/
structure Reversed (pattern : String) : Prop where
  wellFormed : ¬Malformed pattern
  reversed : ∃ text ∈ partTexts pattern, HoldsReversed text

/-- The texts of the parts stand in the pattern. -/
theorem isInfix_of_mem_partTexts (h : text ∈ partTexts pattern) : text <:+: pattern.toList := by
  have trimmed : trimPattern pattern.toList <+: pattern.toList := by
    unfold trimPattern
    split
    · exact List.prefix_rfl
    · exact Text.trimBack_isPrefix _
  refine List.IsInfix.trans ?_ trimmed.isInfix
  unfold partTexts at h
  split at h
  · cases h
  next body read =>
    rw [read]
    exact (Text.isInfix_of_mem_splitOn h).trans (List.suffix_cons _ _).isInfix
  · exact Text.isInfix_of_mem_splitOn h

/-- A pattern with a reversed range spells it. -/
theorem Reversed.spells (h : Reversed pattern) : SpellsReversed pattern.toList := by
  obtain ⟨text, member, reversed⟩ := h.reversed
  exact reversed.spells.mono (isInfix_of_mem_partTexts member)

/-- A pattern without any part to read matches nothing, and for any other one it depends on its body
whether it compiles. -/
theorem compile_cases (pattern : String) :
    (compile pattern = .ok .never ∧ ∀ text ∈ partTexts pattern, text = []) ∨
      ∃ body f, partTexts pattern = body.splitOn '/' ∧ f never = never ∧
        compile pattern = (compileBody body).map f := by
  unfold compile partTexts
  generalize trimPattern pattern.toList = trimmed
  split
  · exact Or.inl ⟨rfl, by decide⟩
  · exact Or.inl ⟨rfl, by decide⟩
  · exact Or.inl ⟨rfl, by simp⟩
  next body => exact Or.inr ⟨body, fun _ => .never, rfl, rfl, rfl⟩
  next noComment noMark =>
    refine Or.inr ⟨trimmed, id, ?_, rfl, ?_⟩
    · split
      · exact absurd rfl (noComment _)
      · exact absurd rfl (noMark _)
      · rfl
    · cases compileBody trimmed <;> rfl

/-- A malformed pattern compiles, but matches nothing. -/
theorem compile_of_malformed (h : Malformed pattern) : compile pattern = .ok never := by
  obtain ⟨text, member, unreadable⟩ := h
  rcases compile_cases pattern with ⟨compiled, -⟩ | ⟨body, f, same, kept, compiled⟩
  · exact compiled
  · rw [same] at member
    rw [compiled, compileBody_of_unreadable ⟨text, member, unreadable⟩, Except.map, kept]

/-- The patterns that do not compile are those with a reversed range. -/
theorem compile_eq_error_iff (e : GlobError) : compile pattern = .error e ↔ Reversed pattern := by
  rcases compile_cases pattern with ⟨compiled, nothing⟩ | ⟨body, f, same, -, compiled⟩
  · rw [compiled]
    constructor
    · intro impossible
      cases impossible
    · rintro ⟨-, text, member, reversed⟩
      obtain rfl := nothing text member
      exact absurd reversed (holdsReversed_special [] List.mem_cons_self)
  · have failed : compile pattern = .error e ↔ compileBody body = .error e := by
      rw [compiled]
      cases compileBody body with
      | error e' => exact Iff.rfl
      | ok g => simp [Except.map]
    rw [failed, compileBody_eq_error_iff, ← same]
    constructor
    · rintro ⟨readable, reversed⟩
      exact ⟨fun ⟨text, member, unreadable⟩ => readable text member unreadable, reversed⟩
    · rintro ⟨wellFormed, reversed⟩
      exact ⟨fun text member unreadable => wellFormed ⟨text, member, unreadable⟩, reversed⟩

/-- Matching fails exactly if compiling does. -/
theorem matches_eq_error_iff (path : String) (e : GlobError) :
    matches? pattern path = .error e ↔ Reversed pattern := by
  rw [← compile_eq_error_iff e, matches?]
  cases compile pattern with
  | error e' => simp [Except.map]
  | ok g => simp [Except.map]

/-- All other patterns compile. -/
theorem compiles_iff : Compiles pattern ↔ ¬Reversed pattern := by
  unfold Compiles
  cases compiled : compile pattern with
  | error e => simp [(compile_eq_error_iff e).mp compiled]
  | ok g =>
    have straight : ¬Reversed pattern := by
      intro reversed
      cases ((compile_eq_error_iff .reversedRange).mpr reversed).symm.trans compiled
    simp [straight]

end Glob

end DocGraph
