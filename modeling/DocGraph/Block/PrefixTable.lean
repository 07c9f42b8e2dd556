import DocGraph.Block.Token

/-!
# Prefixes

The prefixes that references may be shortened with. Four are known from the start; a block may
declare more, or declare one anew. A reference whose prefix is not declared is kept as written.
-/

set_option autoImplicit false

namespace DocGraph.Block

/-- The namespace of the predicate that gives a subject its type. -/
def rdfNamespace : String := "http://www.w3.org/1999/02/22-rdf-syntax-ns#"

/-- The predicate that gives a subject its type. -/
def typePredicate : String := rdfNamespace ++ "type"

/-- Prefixes and what they stand for, the latest declaration first. -/
abbrev PrefixTable := List (String × String)

/-- The prefixes that every block may use. -/
def PrefixTable.standard : PrefixTable :=
  [("rdf", rdfNamespace), ("rdfs", "http://www.w3.org/2000/01/rdf-schema#"),
    ("xsd", "http://www.w3.org/2001/XMLSchema#"), ("code", "https://schema.codedoc.org/")]

/-- Cut a shortened reference at its first colon. -/
def cutPrefix (reference : String) : String × String :=
  let s := reference.toList
  (String.ofList (s.takeWhile (· != ':')), String.ofList (s.dropWhile (· != ':')).tail)

/-- Write a shortened reference in full. -/
def PrefixTable.expand (table : PrefixTable) (reference : String) : String :=
  let (name, local_) := cutPrefix reference
  match table.lookup name with
  | some base => base ++ local_
  | none => reference

/-- The word that starts the declaration of a prefix. -/
def prefixWord : String := "@prefix"

/-- Read the declaration of a prefix: the word, blanks, the name, a colon, the reference it
stands for in angle brackets, and a full stop that ends the line. -/
def declaration? (line : List Char) : Option (String × String) := do
  let rest ← prefixWord.toList.isPrefixOf? line
  guard (rest.head?.any Text.isBlank)
  let (name, rest) ← prefixName? (Text.trimFront rest)
  match Text.trimFront rest with
  | '<' :: rest =>
    let (base, rest) ← readUri rest
    guard (Text.trimFront rest = ['.'])
    return (String.ofList name, String.ofList base)
  | _ => none

end DocGraph.Block
