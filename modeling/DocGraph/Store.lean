import DocGraph.Triple

/-!
# The triple store

The rows of all blocks, in the order in which they were first added and each of them once. A row
needs a subject and a predicate; its object may be empty.
-/

set_option autoImplicit false

namespace DocGraph

/-- Rows without repetition, oldest first. -/
structure Store where
  rows : List Row
  deriving DecidableEq, Repr

/-- A row without a subject or a predicate cannot be stored. -/
inductive StoreError where
  | incompleteRow
  deriving DecidableEq, Repr

/-- The words for a store error. -/
def StoreError.message : StoreError → String
  | .incompleteRow => "subject and predicate must be non-empty"

namespace Store

/-- The store without rows. -/
def empty : Store := ⟨[]⟩

/-- Add a row; one that is already there stays where it is. -/
def add (s : Store) (row : Row) : Except StoreError Store :=
  if row.subject.isEmpty || row.predicate.isEmpty then .error .incompleteRow
  else if row ∈ s.rows then .ok s
  else .ok ⟨s.rows ++ [row]⟩

/-- Add rows in order. The rows before one that cannot be stored are kept by the store that
comes with the error. -/
def addAll (s : Store) : List Row → Except (StoreError × Store) Store
  | [] => .ok s
  | row :: rest =>
    match s.add row with
    | .ok next => next.addAll rest
    | .error e => .error (e, s)

/-- The number of rows. -/
def count (s : Store) : Nat :=
  s.rows.length

/-- Whether a row is stored. -/
def has (s : Store) (row : Row) : Bool :=
  row ∈ s.rows

/-- Whether a text is the one asked for; nothing asked for admits every text. -/
def admits (asked : Option String) (text : String) : Bool :=
  asked.all (· = text)

/-- The rows that agree with every part asked for. -/
def find (s : Store) (subject predicate object : Option String) : List Row :=
  s.rows.filter fun row =>
    admits subject row.subject && admits predicate row.predicate && admits object row.object

end Store

end DocGraph
