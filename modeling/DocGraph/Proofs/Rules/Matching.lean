import DocGraph.Proofs.Scan.Readable
import Mathlib.Data.List.Basic

/-!
# What a glob matches

The pieces of a glob are tried against a path with everything that may be left of it. Here it is said
without trying what a piece fits on: `Piece.Fits` says of a piece, a text and the end of the text that
the piece covers what is in front of that end. A path matches a pattern if the pieces of the pattern
fit on it one after the other, from its start. What is left behind the last piece does not matter.
-/

set_option autoImplicit false

namespace DocGraph

/-- A piece fits on the front of a text, so that some of the text is left. -/
inductive Piece.Fits : Piece → List Char → List Char → Prop
  /-- A character fits on itself. -/
  | char (c : Char) (rest : List Char) : Fits (.char c) (c :: rest) rest
  /-- A question mark fits on a character that is no slash. -/
  | anyChar {c : Char} (noSlash : c ≠ '/') (rest : List Char) : Fits .anyChar (c :: rest) rest
  /-- A star fits on characters that are no slashes. -/
  | star {front : List Char} (noSlash : '/' ∉ front) (rest : List Char) :
      Fits .star (front ++ rest) rest
  /-- A set fits on a character in one of its ranges, and a negated one on any other. -/
  | oneOf {negated : Bool} {ranges : List ClassRange} {c : Char}
      (belongs : (∃ r ∈ ranges, r.low ≤ c ∧ c ≤ r.high) ↔ negated = false) (rest : List Char) :
      Fits (.oneOf negated ranges) (c :: rest) rest
  /-- Leading directories fit on nothing. -/
  | noLeading (s : List Char) : Fits .leading s s
  /-- Leading directories fit on something in one line with a slash behind it. -/
  | leading {front : List Char} (filled : front ≠ []) (oneLine : '\n' ∉ front) (rest : List Char) :
      Fits .leading (front ++ '/' :: rest) rest
  /-- Inner directories fit on nothing. -/
  | noInner (s : List Char) : Fits .inner s s
  /-- Inner directories fit on something in one line with a slash in front of it. -/
  | inner {front : List Char} (filled : front ≠ []) (oneLine : '\n' ∉ front) (rest : List Char) :
      Fits .inner ('/' :: front ++ rest) rest
  /-- A boundary fits on a slash. -/
  | slash (rest : List Char) : Fits .boundary ('/' :: rest) rest
  /-- A boundary is at the end. -/
  | ending : Fits .boundary [] []
  /-- A boundary is in front of a line feed at the end. -/
  | lastBreak : Fits .boundary ['\n'] ['\n']

/-- Pieces fit on a text one after the other, from its start. -/
inductive PiecesFit : List Piece → List Char → Prop
  | nil (s : List Char) : PiecesFit [] s
  | cons {p : Piece} {ps : List Piece} {s rest : List Char} (first : p.Fits s rest)
      (others : PiecesFit ps rest) : PiecesFit (p :: ps) s

namespace Glob

/-- A path, as globs see it, is matched by a compiled pattern. -/
def Takes : Glob → List Char → Prop
  | .never, _ => False
  | .something, path => ∃ c ∈ path, c ≠ '\n'
  | .nested, path => '/' ∈ path
  | .pieces ps, path => PiecesFit ps path

/-- A path matches a pattern. -/
def Matches (pattern path : String) : Prop :=
  ∃ g, compile pattern = .ok g ∧ g.Takes (normalPath path.toList)

end Glob

/-! ## What is left -/

/-- What can be left after some characters that pass a test. -/
theorem mem_dropSome_iff {test : Char → Bool} {s rest : List Char} :
    rest ∈ dropSome test s ↔ ∃ front, (∀ c ∈ front, test c = true) ∧ s = front ++ rest := by
  induction s with
  | nil =>
    rw [dropSome, List.mem_singleton]
    constructor
    · rintro rfl
      exact ⟨[], fun c impossible => absurd impossible List.not_mem_nil, rfl⟩
    · rintro ⟨front, -, split⟩
      exact (List.append_eq_nil_iff.mp split.symm).2
  | cons x xs ih =>
    rw [dropSome, List.mem_cons]
    constructor
    · rintro (rfl | later)
      · exact ⟨[], fun c impossible => absurd impossible List.not_mem_nil, rfl⟩
      · split at later
        next passes =>
          obtain ⟨front, pass, rfl⟩ := ih.mp later
          exact ⟨x :: front, List.forall_mem_cons.mpr ⟨passes, pass⟩, rfl⟩
        · cases later
    · rintro ⟨front, pass, split⟩
      cases front with
      | nil => exact Or.inl split.symm
      | cons y front =>
        obtain ⟨rfl, rfl⟩ := List.cons.inj split
        obtain ⟨passes, others⟩ := List.forall_mem_cons.mp pass
        rw [if_pos passes]
        exact Or.inr (ih.mpr ⟨front, others, rfl⟩)

/-- What can be left after characters of which none is a given one. -/
theorem mem_dropSome_ne_iff {x : Char} {s rest : List Char} :
    rest ∈ dropSome (· != x) s ↔ ∃ front, x ∉ front ∧ s = front ++ rest := by
  rw [mem_dropSome_iff]
  refine exists_congr fun front => and_congr_left fun _ => ?_
  constructor
  · intro pass member
    simpa using pass x member
  · rintro absent c member
    exact bne_iff_ne.mpr fun same => absent (same ▸ member)

/-- If what is taken of a text is what it has behind a slash at its front, then what is taken of some
texts is what any of them has there. -/
theorem mem_filterMap_behind {f : List Char → Option (List Char)} {rest : List Char}
    (behind : ∀ tail, f tail = some rest ↔ tail = '/' :: rest) (tails : List (List Char)) :
    rest ∈ tails.filterMap f ↔ '/' :: rest ∈ tails := by
  rw [List.mem_filterMap]
  simp only [behind, exists_eq_right]

/-- What can be left after characters in one line, of which there is one at least. -/
theorem mem_dropSome_line_iff {c : Char} {more rest : List Char} :
    c ≠ '\n' ∧ rest ∈ dropSome (· != '\n') more ↔
      ∃ front, front ≠ [] ∧ '\n' ∉ front ∧ c :: more = front ++ rest := by
  rw [mem_dropSome_ne_iff]
  constructor
  · rintro ⟨noBreak, front, oneLine, rfl⟩
    exact ⟨c :: front, List.cons_ne_nil _ _,
      List.not_mem_cons_of_ne_of_not_mem (Ne.symm noBreak) oneLine, rfl⟩
  · rintro ⟨front, filled, oneLine, split⟩
    cases front with
    | nil => exact absurd rfl filled
    | cons x front =>
      obtain ⟨rfl, rfl⟩ := List.cons.inj split
      exact ⟨Ne.symm (List.ne_of_not_mem_cons oneLine), front,
        List.not_mem_of_not_mem_cons oneLine, rfl⟩

/-- What can be left after directories with a slash behind them. -/
theorem mem_afterDirectories_iff {s rest : List Char} :
    rest ∈ afterDirectories s ↔ ∃ front, front ≠ [] ∧ '\n' ∉ front ∧ s = front ++ '/' :: rest := by
  cases s with
  | nil => simp [afterDirectories]
  | cons c more =>
    rw [← mem_dropSome_line_iff, afterDirectories]
    split
    next break_ => simp [break_]
    next noBreak =>
      refine (mem_filterMap_behind (fun tail => ?_) _).trans (and_iff_right noBreak).symm
      split
      next after => simp
      next other =>
        refine iff_of_false (by simp) ?_
        rintro rfl
        exact other rest rfl

/-- A character belongs to a set, or to what is not in it. -/
theorem belongs_iff {negated : Bool} {ranges : List ClassRange} {c : Char} :
    ((ranges.any fun r => r.holds c) != negated) = true ↔
      ((∃ r ∈ ranges, r.low ≤ c ∧ c ≤ r.high) ↔ negated = false) := by
  have held : (ranges.any fun r => r.holds c) = true ↔ ∃ r ∈ ranges, r.low ≤ c ∧ c ≤ r.high := by
    simp [List.any_eq_true, ClassRange.holds]
  rw [← held]
  cases (ranges.any fun r => r.holds c) <;> cases negated <;> decide

/-- After inner directories all of a text can be left, or what is behind some characters in one line
that have a slash in front of them. -/
theorem Piece.mem_rests_inner_iff {s rest : List Char} : rest ∈ Piece.inner.rests s ↔
    rest = s ∨ ∃ front, front ≠ [] ∧ '\n' ∉ front ∧ s = '/' :: front ++ rest := by
  unfold rests
  split
  any_goals contradiction
  next more same =>
    refine List.mem_cons.trans (or_congr_right ?_)
    cases more with
    | nil => simp
    | cons c more =>
      simp only [List.cons_append, List.cons.injEq, true_and]
      rw [← mem_dropSome_line_iff]
      split
      next break_ => simp [break_]
      next noBreak => exact (and_iff_right noBreak).symm
  next noSlash =>
    refine List.mem_singleton.trans (or_iff_left ?_).symm
    rintro ⟨front, -, -, rfl⟩
    exact noSlash _ rfl

/-- What is tried as the rest of a text is left when the piece fits. -/
theorem Piece.fits_of_mem_rests {p : Piece} {s rest : List Char} (left_ : rest ∈ p.rests s) :
    p.Fits s rest := by
  cases p with
  | char c =>
    cases s with
    | nil => cases left_
    | cons x more =>
      rw [rests, List.mem_ite_nil_right, List.mem_singleton] at left_
      obtain ⟨rfl, rfl⟩ := left_
      exact .char x rest
  | anyChar =>
    cases s with
    | nil => cases left_
    | cons x more =>
      rw [rests, List.mem_ite_nil_left, List.mem_singleton] at left_
      obtain ⟨noSlash, rfl⟩ := left_
      exact .anyChar noSlash rest
  | star =>
    rw [rests] at left_
    obtain ⟨front, noSlash, rfl⟩ := mem_dropSome_ne_iff.mp left_
    exact .star noSlash rest
  | oneOf negated ranges =>
    cases s with
    | nil => cases left_
    | cons x more =>
      rw [rests, List.mem_ite_nil_right, List.mem_singleton] at left_
      obtain ⟨belongs, rfl⟩ := left_
      exact .oneOf (belongs_iff.mp belongs) rest
  | leading =>
    rw [rests] at left_
    rcases List.mem_cons.mp left_ with rfl | directories
    · exact .noLeading rest
    · obtain ⟨front, filled, oneLine, rfl⟩ := mem_afterDirectories_iff.mp directories
      exact .leading filled oneLine rest
  | inner =>
    rcases mem_rests_inner_iff.mp left_ with rfl | ⟨front, filled, oneLine, rfl⟩
    · exact .noInner rest
    · exact .inner filled oneLine rest
  | boundary =>
    unfold rests at left_
    split at left_
    any_goals contradiction
    · rw [List.mem_singleton.mp left_]
      exact .slash _
    · rw [List.mem_singleton.mp left_]
      exact .ending
    · rw [List.mem_singleton.mp left_]
      exact .lastBreak

/-- What is left when a piece fits is tried as the rest of the text. -/
theorem Piece.Fits.mem_rests {p : Piece} {s rest : List Char} (fits : p.Fits s rest) :
    rest ∈ p.rests s := by
  cases fits with
  | char c => simp [rests]
  | anyChar noSlash => simp [rests, noSlash]
  | star noSlash =>
    rw [rests]
    exact mem_dropSome_ne_iff.mpr ⟨_, noSlash, rfl⟩
  | oneOf belongs =>
    rw [rests, if_pos (belongs_iff.mpr belongs)]
    exact List.mem_singleton_self rest
  | noLeading =>
    rw [rests]
    exact List.mem_cons_self
  | leading filled oneLine =>
    rw [rests]
    exact List.mem_cons_of_mem _ (mem_afterDirectories_iff.mpr ⟨_, filled, oneLine, rfl⟩)
  | noInner => exact mem_rests_inner_iff.mpr (Or.inl rfl)
  | inner filled oneLine => exact mem_rests_inner_iff.mpr (Or.inr ⟨_, filled, oneLine, rfl⟩)
  | slash => exact List.mem_singleton_self rest
  | ending => exact List.mem_singleton_self _
  | lastBreak => exact List.mem_singleton_self _

/-- Pieces can be laid out exactly if they fit. -/
theorem layOut_iff {ps : List Piece} {s : List Char} : layOut ps s = true ↔ PiecesFit ps s := by
  induction ps generalizing s with
  | nil => exact ⟨fun _ => .nil s, fun _ => rfl⟩
  | cons p ps ih =>
    rw [layOut, List.any_eq_true]
    constructor
    · rintro ⟨rest, left_, others⟩
      exact .cons (Piece.fits_of_mem_rests left_) (ih.mp others)
    · rintro (_ | ⟨first, others⟩)
      exact ⟨_, first.mem_rests, ih.mpr others⟩

namespace Glob

/-- A compiled pattern matches what it takes. -/
theorem matchesNormal_iff (g : Glob) (path : List Char) :
    g.matchesNormal path = true ↔ g.Takes path := by
  cases g with
  | never => simp [matchesNormal, Takes]
  | something => simp [matchesNormal, Takes]
  | nested => simp [matchesNormal, Takes]
  | pieces ps => exact layOut_iff

/-- Matching a pattern gives yes exactly if the path matches it. -/
theorem matches_eq_true_iff {pattern path : String} :
    matches? pattern path = .ok true ↔ Matches pattern path := by
  unfold matches? Matches
  cases compile pattern with
  | error e => simp [Except.map]
  | ok g => simp [Except.map, matchesNormal_iff]

/-- One of several patterns that compile matches exactly if the path matches one of them. -/
theorem matchesAny_eq_true_iff {path : String} {patterns : List String}
    (readable : ∀ pattern ∈ patterns, Compiles pattern) :
    matchesAny? path patterns = .ok true ↔ ∃ pattern ∈ patterns, Matches pattern path := by
  induction patterns with
  | nil => simp [matchesAny?]
  | cons pattern rest ih =>
    have later := ih fun p member => readable p (List.mem_cons_of_mem _ member)
    obtain ⟨answer, matched⟩ := (readable pattern List.mem_cons_self).matches_ok path
    rw [matchesAny?, List.exists_mem_cons_iff, ← matches_eq_true_iff, matched]
    cases answer with
    | true => simp
    | false => simpa using later

end Glob

/-- A readable plan includes the paths that match one of its patterns, or all if there is none. -/
theorem WalkPlan.Readable.includes_eq_true_iff {plan : WalkPlan} (h : plan.Readable) (path : Path) :
    plan.includes path = .ok true ↔ plan.includePatterns = [] ∨
      ∃ pattern ∈ plan.includePatterns, Glob.Matches pattern (plan.relative path) := by
  unfold includes
  by_cases none_ : plan.includePatterns = []
  · simp [none_]
  · rw [if_neg (by simpa using none_), Glob.matchesAny_eq_true_iff h.patterns, or_iff_right none_]

end DocGraph
