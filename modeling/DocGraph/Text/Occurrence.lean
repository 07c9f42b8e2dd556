/-!
# Occurrences

Finding one list inside another: where a pattern first occurs, and what stands on either side
of it.
-/

set_option autoImplicit false

namespace DocGraph.Text

variable {α : Type} [BEq α]

/-- Cut at the first occurrence of a pattern, given what was already passed, newest first. -/
def breakOnFrom (pattern passed : List α) : List α → Option (List α × List α)
  | [] => if pattern.isEmpty then some (passed.reverse, []) else none
  | x :: rest =>
    match pattern.isPrefixOf? (x :: rest) with
    | some after => some (passed.reverse, after)
    | none => breakOnFrom pattern (x :: passed) rest

/-- What stands before and after the first occurrence of a pattern. -/
def breakOn (pattern s : List α) : Option (List α × List α) :=
  breakOnFrom pattern [] s

/-- Whether a pattern occurs in a list. -/
def occursIn (pattern : List α) : List α → Bool
  | [] => pattern.isEmpty
  | x :: rest => pattern.isPrefixOf (x :: rest) || occursIn pattern rest

/-- Cut at every element equal to a separator, given the part being read and the parts
already complete, both newest first. -/
def splitOnFrom (separator : α) (complete : List (List α)) (part : List α) :
    List α → List (List α)
  | [] => (part.reverse :: complete).reverse
  | x :: rest =>
    if x == separator then splitOnFrom separator (part.reverse :: complete) [] rest
    else splitOnFrom separator complete (x :: part) rest

/-- The parts between the separators; there is one part more than there are separators. -/
def splitOn (separator : α) (s : List α) : List (List α) :=
  splitOnFrom separator [] [] s

end DocGraph.Text
