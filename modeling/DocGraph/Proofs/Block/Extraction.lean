import DocGraph.Proofs.Block.Place
import DocGraph.Proofs.Text.Occurrence
import Mathlib

/-!
# What is taken out of a text

A block stands between the first start marker of a text and the first end marker behind that. Which
of the markers in a text these are is settled by what stands before them: neither marker can overlap
with another copy of itself, because the bracket that it starts with does not come back in it. So the
first copy is the one that has none in the text before it (`breakOn_eq_some_iff`), whatever markers
stand behind it.

`Extracts` lists the forms that a text can have, with what is taken out of each, and mentions no
search. By `locate_eq_iff` every text has one of these forms, and only what is listed for it is taken
out.
-/

set_option autoImplicit false

namespace DocGraph

namespace Text

/-! ## What trimming leaves -/

/-- A text with blanks at its ends, of which the rest has none. -/
structure Padded (s lead block trail : List Char) : Prop where
  whole : s = lead ++ (block ++ trail)
  leading : ∀ c ∈ lead, isBlank c = true
  trailing : ∀ c ∈ trail, isBlank c = true
  starts : ∃ c ∈ block.head?, isBlank c = false
  stops : ∃ c ∈ block.getLast?, isBlank c = false

/-- Blanks behind a character that is none are cut off. -/
theorem trimBack_append_of_blank {s : List Char} {c : Char} (ends : c ∈ s.getLast?)
    (solid : isBlank c = false) {trail : List Char} (blank : ∀ d ∈ trail, isBlank d = true) :
    trimBack (s ++ trail) = s := by
  obtain ⟨front, rfl⟩ := List.getLast?_eq_some_iff.mp ends
  have nothing : trimBack trail = [] := by
    have dropped : trimFront trail.reverse = [] := by simpa [trimFront] using blank
    rw [trimBack, dropped]
    rfl
  rw [List.append_assoc, List.singleton_append, trimBack_append front solid, nothing]

namespace Padded

variable {s lead block trail : List Char}

/-- A block between blanks starts with a character that is none. -/
theorem starts_with (h : Padded s lead block trail) :
    ∃ c rest, block = c :: rest ∧ isBlank c = false := by
  obtain ⟨c, head, solid⟩ := h.starts
  obtain ⟨rest, rfl⟩ := List.head?_eq_some_iff.mp head
  exact ⟨c, rest, rfl, solid⟩

/-- Trimming gives the block between the blanks. -/
theorem trim (h : Padded s lead block trail) : trim s = block := by
  obtain ⟨d, ends, hard⟩ := h.stops
  obtain ⟨c, rest, rfl, solid⟩ := h.starts_with
  rw [h.whole, Text.trim, trimFront_append h.leading, List.cons_append,
    trimFront_of_not_isBlank solid, ← List.cons_append]
  exact trimBack_append_of_blank ends hard h.trailing

/-- The blanks in front are those before the block. -/
theorem takeWhile (h : Padded s lead block trail) : s.takeWhile isBlank = lead := by
  obtain ⟨c, rest, rfl, solid⟩ := h.starts_with
  rw [h.whole, List.takeWhile_append_of_pos h.leading, List.cons_append,
    List.takeWhile_cons_of_neg (by simp [solid]), List.append_nil]

end Padded

/-- A text is blank, or it is a block between blanks. -/
theorem blank_or_exists_padded (s : List Char) :
    (∀ c ∈ s, isBlank c = true) ∨ ∃ lead block trail, Padded s lead block trail := by
  have front : s.takeWhile isBlank ++ s.dropWhile isBlank = s := List.takeWhile_append_dropWhile
  cases kept : s.dropWhile isBlank with
  | nil =>
    left
    simpa using kept
  | cons c rest =>
    right
    have solid : isBlank c = false := by
      have head := List.head?_dropWhile_not isBlank s
      rw [kept] at head
      simpa using head
    have cut : (c :: rest).rdropWhile isBlank ++ (c :: rest).rtakeWhile isBlank = c :: rest :=
      List.rdropWhile_append_rtakeWhile
    have some_ : (c :: rest).rdropWhile isBlank ≠ [] := by
      -- The first character is no blank, so not all of them are dropped from behind.
      intro nothing
      have all := List.rdropWhile_eq_nil_iff.mp nothing c List.mem_cons_self
      rw [solid] at all
      cases all
    refine ⟨s.takeWhile isBlank, (c :: rest).rdropWhile isBlank, (c :: rest).rtakeWhile isBlank,
      ⟨?_, ?_, ?_, ?_, ?_⟩⟩
    · rw [cut, ← kept, front]
    · exact fun d member => List.mem_takeWhile_imp member
    · exact fun d member => List.mem_rtakeWhile_imp member
    · obtain ⟨d, more, same⟩ := List.exists_cons_of_ne_nil some_
      rw [same, List.cons_append] at cut
      obtain ⟨rfl, -⟩ := List.cons.inj cut
      exact ⟨d, by rw [same]; rfl, solid⟩
    · refine ⟨_, List.getLast?_eq_some_getLast some_, ?_⟩
      simpa using List.rdropWhile_last_not isBlank (c :: rest) some_

end Text

namespace Block

/-! ## The block of a text -/

/-- What is taken out of a text. Before the first start marker there is none, and before the first
end marker behind it there is none either; all other markers may stand anywhere. -/
inductive Extracts : List Char → Except GrammarError (Option Located) → Prop
  | absent {content : List Char} (unmarked : ¬startMarker.toList <:+: content) :
      Extracts content (.ok none)
  | unclosed {before rest : List Char} (first : ¬startMarker.toList <:+: before)
      (unended : ¬endMarker.toList <:+: rest) :
      Extracts (before ++ (startMarker.toList ++ rest))
        (.error ⟨.blockNotClosed, some (1 + lineFeeds before)⟩)
  | blank {before body behind : List Char} (first : ¬startMarker.toList <:+: before)
      (within : ¬endMarker.toList <:+: body) (blank : ∀ c ∈ body, Text.isBlank c = true) :
      Extracts (before ++ (startMarker.toList ++ (body ++ (endMarker.toList ++ behind)))) (.ok none)
  | block {before body behind lead block trail : List Char}
      (first : ¬startMarker.toList <:+: before) (within : ¬endMarker.toList <:+: body)
      (padded : Text.Padded body lead block trail) :
      Extracts (before ++ (startMarker.toList ++ (body ++ (endMarker.toList ++ behind))))
        (.ok (some ⟨String.ofList block,
          1 + lineFeeds (before ++ (startMarker.toList ++ lead))⟩))

/-- A text is cut at the first start marker. -/
theorem opens_iff {content before body : List Char} :
    Text.breakOn startMarker.toList content = some (before, body) ↔
      content = before ++ (startMarker.toList ++ body) ∧ ¬startMarker.toList <:+: before :=
  Text.breakOn_eq_some_iff (by decide)

/-- A text is cut at the first end marker. -/
theorem closes_iff {body raw behind : List Char} :
    Text.breakOn endMarker.toList body = some (raw, behind) ↔
      body = raw ++ (endMarker.toList ++ behind) ∧ ¬endMarker.toList <:+: raw :=
  Text.breakOn_eq_some_iff (by decide)

/-- Nothing is found between markers with blanks only. -/
theorem locate_of_blank {content : String} {before body raw behind : List Char}
    (opens : Text.breakOn startMarker.toList content.toList = some (before, body))
    (closes : Text.breakOn endMarker.toList body = some (raw, behind))
    (blank : ∀ c ∈ raw, Text.isBlank c = true) : locate content = .ok none := by
  simp [locate, opens, closes, Text.trim_of_blank blank]

/-- What is found between markers is the block between the blanks, on the line where it starts. -/
theorem locate_of_padded {content : String} {before body raw behind lead block trail : List Char}
    (opens : Text.breakOn startMarker.toList content.toList = some (before, body))
    (closes : Text.breakOn endMarker.toList body = some (raw, behind))
    (padded : Text.Padded raw lead block trail) :
    locate content = .ok (some ⟨String.ofList block,
      1 + lineFeeds (before ++ (startMarker.toList ++ lead))⟩) := by
  have marker : lineFeeds startMarker.toList = 0 := by decide
  have count : lineFeeds before + lineFeeds lead + 1 =
      1 + lineFeeds (before ++ (startMarker.toList ++ lead)) := by
    rw [lineFeeds_append, lineFeeds_append, marker]
    omega
  obtain ⟨c, rest, rfl, -⟩ := padded.starts_with
  simp [locate, opens, closes, padded.trim, padded.takeWhile, count]

/-- What is found is one of the forms that there are. -/
theorem extracts_locate (content : String) : Extracts content.toList (locate content) := by
  cases opens : Text.breakOn startMarker.toList content.toList with
  | none =>
    have nothing : locate content = .ok none := by simp [locate, opens]
    rw [nothing]
    exact .absent (Text.breakOn_eq_none_iff.mp opens)
  | some cut =>
    obtain ⟨before, body⟩ := cut
    obtain ⟨whole, first⟩ := opens_iff.mp opens
    cases closes : Text.breakOn endMarker.toList body with
    | none =>
      have fails : locate content =
          .error ⟨.blockNotClosed, some (1 + lineFeeds before)⟩ := by
        simp [locate, opens, closes, Int.add_comm]
      rw [whole, fails]
      exact .unclosed first (Text.breakOn_eq_none_iff.mp closes)
    | some cut =>
      obtain ⟨raw, behind⟩ := cut
      obtain ⟨rfl, within⟩ := closes_iff.mp closes
      rw [whole]
      rcases Text.blank_or_exists_padded raw with blank | ⟨lead, block, trail, padded⟩
      · rw [locate_of_blank opens closes blank]
        exact .blank first within blank
      · rw [locate_of_padded opens closes padded]
        exact .block first within padded

/-- What is taken out of a text is what is listed for the form that the text has, and it has one. -/
theorem locate_eq_iff (content : String) (outcome : Except GrammarError (Option Located)) :
    locate content = outcome ↔ Extracts content.toList outcome := by
  constructor
  · rintro rfl
    exact extracts_locate content
  · intro h
    generalize same : content.toList = text at h
    cases h with
    | absent unmarked =>
      have nothing := Text.breakOn_eq_none_iff.mpr unmarked
      simp [locate, same, nothing]
    | unclosed first unended =>
      have opens := opens_iff.mpr ⟨same, first⟩
      have open_ := Text.breakOn_eq_none_iff.mpr unended
      simp [locate, opens, open_, Int.add_comm]
    | blank first within blank =>
      exact locate_of_blank (opens_iff.mpr ⟨same, first⟩) (closes_iff.mpr ⟨rfl, within⟩) blank
    | block first within padded =>
      exact locate_of_padded (opens_iff.mpr ⟨same, first⟩) (closes_iff.mpr ⟨rfl, within⟩) padded

end Block

end DocGraph
