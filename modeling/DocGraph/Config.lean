import DocGraph.IgnoreRule
import DocGraph.Language
import DocGraph.Value

/-!
# Configured rules and languages

The ignore rules and the languages that apply from the start are written in two documents. The
first groups rules by category; the second has a table for each language. Either may be missing.
-/

set_option autoImplicit false

namespace DocGraph

/-- A language as it is configured. It may have been given no name. -/
structure ConfiguredLanguage where
  key : String
  name : Value
  extensions : List Value

/-- What the two documents say. -/
structure Config where
  ignoreRules : IgnoreRules := []
  languages : List ConfiguredLanguage := []

/-- The categories whose rules come first, in this order. -/
def knownCategories : List String :=
  ["version_control", "dependencies", "ide", "os", "artifacts", "graphfs"]

/-- The key of a document under which its version stands. -/
def versionKey : String := "version"

namespace Config

/-- The entries of a document. One that holds nothing is a table without entries. -/
def documentEntries (document : Value) : Except ShapeError (List (String × Value)) :=
  if document.isVacant then .ok [] else document.entries

/-- The rules of a category. -/
def rulesOf (category : Value) : Except ShapeError (List String) :=
  if category.isVacant then .ok [] else (category.elements).map (·.map Value.asText)

/-- The ignore rules of a document: those of the known categories first, then those of all
others as they come. -/
def readRules (document : Value) : Except ShapeError IgnoreRules := do
  let entries ← documentEntries document
  let known ← knownCategories.mapM fun key => rulesOf ((entries.lookup key).getD .nothing)
  let others := entries.filter fun entry => entry.1 ≠ versionKey && entry.1 ∉ knownCategories
  let more ← others.mapM fun entry => rulesOf entry.2
  return (known ++ more).flatten

/-- One language. It is named like its key if it has no entry for the name. -/
def readLanguage (key : String) (value : Value) : Except ShapeError ConfiguredLanguage := do
  let entries ← value.entries
  let extensions ← ((entries.lookup "extensions").getD (.list [])).elements
  return ⟨key, (entries.lookup "name").getD (.text key), extensions⟩

/-- The languages of a document. -/
def readLanguages (document : Value) : Except ShapeError (List ConfiguredLanguage) := do
  let entries ← documentEntries document
  (entries.filter fun entry => entry.1 ≠ versionKey).mapM fun entry => readLanguage entry.1 entry.2

/-- Read both documents. A missing one says nothing. -/
def read (rules languages : Option Value) : Except ShapeError Config := do
  let ignoreRules ← readRules (rules.getD .nothing)
  return { ignoreRules, languages := ← readLanguages (languages.getD .nothing) }

/-- The configuration that comes with the program. -/
def standard : Config :=
  ⟨.standard, Registry.standard.map fun entry =>
    ⟨entry.1, .text entry.2.name, entry.2.extensions.map .text⟩⟩

end Config

end DocGraph
