import DocGraph.Graph.Reachability
import DocGraph.Number.Total

/-!
# Validation

Checks on a finished graph. Errors are missing required fields, cycles of dependencies and URIs
that several modules share; warnings point out what is missing or unusual. Modules are looked at
in the order of their paths, and the findings come check by check.

The search for cycles walks depth first. It remembers over all modules which URIs it has seen
and starts only from modules whose URI is new.
-/

set_option autoImplicit false

namespace DocGraph

/-- What is found about a module. -/
inductive Finding where
  | missingUri
  | missingName
  | missingDescription
  | missingLanguage
  | dependencyNotFound (reference : String)
  | circularDependency
  | duplicateUri (uri : String) (paths : List String)
  | noTags
  | noExports
  | manyDependencies (count : Nat)
  deriving DecidableEq, Repr

/-- The words for a finding. -/
def Finding.message : Finding → String
  | .missingUri => "missing URI"
  | .missingName => "missing required field: name"
  | .missingDescription => "missing description"
  | .missingLanguage => "missing language"
  | .dependencyNotFound reference => "dependency not found: " ++ reference
  | .circularDependency => "circular dependency detected"
  | .duplicateUri uri paths => "duplicate URI " ++ uri ++ " found in: " ++ Text.quotedList paths
  | .noTags => "no tags specified"
  | .noExports => "no exports specified"
  | .manyDependencies count =>
    "high number of dependencies (" ++ toString count ++ ") - consider refactoring"

/-- A finding and the path of the module it is about. -/
structure Issue where
  path : String
  finding : Finding
  deriving DecidableEq, Repr

/-- An issue in one line. -/
def Issue.text (i : Issue) : String :=
  i.path ++ ": " ++ i.finding.message

/-- What a validation finds. -/
structure Validation where
  errors : List Issue
  warnings : List Issue
  deriving DecidableEq, Repr

/-- A graph is valid if no error is found. -/
def Validation.isValid (v : Validation) : Bool :=
  v.errors.isEmpty

/-- The words for a validation that fails. -/
def Validation.message (v : Validation) : String :=
  "\n".intercalate
    (("validation failed with " ++ toString v.errors.length ++ " error(s):") ::
      v.errors.map fun issue => "  - " ++ issue.text)

/-- More dependencies than this are pointed out. -/
def dependencyLimit : Nat := 10

/-- A module on the way that the search for cycles has come: its URI and the references that
have not been followed yet. -/
structure Frame where
  uri : String
  pending : List String
  deriving DecidableEq, Repr

namespace Graph

/-- How many references are pending on the way, counting each module on it once more. -/
def pendingWork (way : List Frame) : Nat :=
  Number.total (way.map fun f => f.pending.length + 1)

/-- Follow references depth first along a way, innermost module first, until a URI on the way
is met again. Gives whether that happened and the URIs seen. -/
def cycleFrom (ms : ModuleMap) (seen : List String) : List Frame → Bool × List String
  | [] => (false, seen)
  | ⟨_, []⟩ :: way => cycleFrom ms seen way
  | ⟨uri, reference :: pending⟩ :: way =>
    match _h : resolve? ms reference with
    | none => cycleFrom ms seen (⟨uri, pending⟩ :: way)
    | some entry =>
      if entry.2.uri = uri || way.any fun f => f.uri = entry.2.uri then (true, seen)
      else if _hnew : entry.2.uri ∈ seen then cycleFrom ms seen (⟨uri, pending⟩ :: way)
      else
        cycleFrom ms (entry.2.uri :: seen)
          (⟨entry.2.uri, entry.2.dependencies⟩ :: ⟨uri, pending⟩ :: way)
termination_by way => (unseen ms seen, pendingWork way)
decreasing_by
  · exact Prod.Lex.right _ (by simp [pendingWork])
  · exact Prod.Lex.right _ (by simp [pendingWork])
  · exact Prod.Lex.right _ (by simp [pendingWork])
  · exact Prod.Lex.left _ _ (unseen_cons_lt (resolve?_mem _h) _hnew)

/-- The paths among the given modules from which a cycle is found. -/
def cyclesFrom (ms : ModuleMap) (seen : List String) : List (String × Module) → List String
  | [] => []
  | (path, m) :: rest =>
    if m.uri ∈ seen then cyclesFrom ms seen rest
    else
      match cycleFrom ms (m.uri :: seen) [⟨m.uri, m.dependencies⟩] with
      | (true, seen) => path :: cyclesFrom ms seen rest
      | (false, seen) => cyclesFrom ms seen rest

/-- The modules in the order of their paths. -/
def sorted (g : Graph) : ModuleMap :=
  g.modules.mergeSort fun a b => !(b.1 < a.1)

/-- The URIs that are not empty, each once, with the paths that have them. -/
def uriGroups (ms : ModuleMap) : List (String × List String) :=
  ms.foldl (fun groups e => if e.2.uri.isEmpty then groups else addUnder groups e.2.uri e.1) []

/-- The required fields that a module lacks. -/
def requiredErrors (m : Module) : List Finding :=
  (if m.uri.isEmpty then [.missingUri] else []) ++
    (if m.name.isEmpty then [.missingName] else [])

/-- The recommended fields that a module lacks. -/
def requiredWarnings (m : Module) : List Finding :=
  (if m.description.isEmpty then [.missingDescription] else []) ++
    (if m.language.isEmpty then [.missingLanguage] else [])

/-- The dependencies of a module that nothing answers to. -/
def dependencyWarnings (ms : ModuleMap) (m : Module) : List Finding :=
  (m.dependencies.filter fun reference => (resolve? ms reference).isNone).map
    .dependencyNotFound

/-- What is unusual about a module. -/
def practiceWarnings (m : Module) : List Finding :=
  (if m.tags.isEmpty then [.noTags] else []) ++
    (if m.exports.isEmpty then [.noExports] else []) ++
    (if m.dependencies.length > dependencyLimit then
      [.manyDependencies m.dependencies.length]
    else [])

/-- The errors for URIs that several paths have. -/
def duplicateErrors (ms : ModuleMap) : List Issue :=
  (uriGroups ms).flatMap fun (uri, paths) =>
    if paths.length > 1 then paths.map fun path => ⟨path, .duplicateUri uri paths⟩ else []

/-- Collect what a check finds about each module. -/
def issues (ms : ModuleMap) (check : Module → List Finding) : List Issue :=
  ms.flatMap fun (path, m) => (check m).map (Issue.mk path)

/-- Run every check. -/
def validate (g : Graph) : Validation :=
  let ms := g.sorted
  { errors :=
      issues ms requiredErrors ++
        (cyclesFrom g.modules [] ms).map (⟨·, .circularDependency⟩) ++ duplicateErrors ms
    warnings :=
      issues ms requiredWarnings ++ issues ms (dependencyWarnings g.modules) ++
        issues ms practiceWarnings }

end Graph

end DocGraph
