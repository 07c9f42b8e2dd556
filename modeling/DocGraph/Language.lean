import DocGraph.Path
import DocGraph.Text.LowerCase

/-!
# Languages

Which language a file is written in, judged by the ending of its name. A registry holds
languages under keys, in the order in which the keys were first registered. Endings are compared
in lower case; of the languages that claim an ending, the last one in order has it.
-/

set_option autoImplicit false

namespace DocGraph

/-- A language: its name and the endings that identify it. -/
structure Language where
  name : String
  extensions : List String
  deriving DecidableEq, Repr

/-- What a file is said to be written in when no language claims it. -/
def unknownLanguage : String := "unknown"

/-- Languages by key. -/
abbrev Registry := List (String × Language)

namespace Registry

/-- Register a language. A key that is there keeps its place. -/
def register (r : Registry) (key : String) (language : Language) : Registry :=
  match r with
  | [] => [(key, language)]
  | (k, old) :: rest =>
    if k = key then (k, language) :: rest else (k, old) :: register rest key language

/-- The language under a key. -/
def get? (r : Registry) (key : String) : Option Language :=
  r.lookup key

/-- Whether a language claims an ending, which is given in lower case. -/
def claims (language : Language) (ending : String) : Bool :=
  language.extensions.any fun e => Text.lower e = ending

/-- The name of the language of a path. -/
def detect (r : Registry) (path : String) : String :=
  let ending := Text.lower (Path.ofString path).extension
  if ending.isEmpty then unknownLanguage
  else
    match r.reverse.find? fun entry => claims entry.2 ending with
    | some entry => entry.2.name
    | none => unknownLanguage

/-- Whether the language of a path is known. -/
def supports (r : Registry) (path : String) : Bool :=
  r.detect path ≠ unknownLanguage

/-- The names of all languages, in order. -/
def names (r : Registry) : List String :=
  (r.map fun entry => entry.2.name).mergeSort fun a b => !(b < a)

/-- The languages that are known from the start. -/
def standard : Registry :=
  [("go", ⟨"Go", [".go"]⟩),
    ("python", ⟨"Python", [".py", ".pyw"]⟩),
    ("javascript", ⟨"JavaScript", [".js", ".mjs", ".cjs"]⟩),
    ("typescript", ⟨"TypeScript", [".ts", ".tsx"]⟩),
    ("java", ⟨"Java", [".java"]⟩),
    ("rust", ⟨"Rust", [".rs"]⟩),
    ("c", ⟨"C", [".c", ".h"]⟩),
    ("cpp", ⟨"C++", [".cpp", ".cc", ".cxx", ".hpp", ".hxx", ".h++"]⟩),
    ("csharp", ⟨"C#", [".cs"]⟩),
    ("ruby", ⟨"Ruby", [".rb"]⟩),
    ("php", ⟨"PHP", [".php"]⟩),
    ("swift", ⟨"Swift", [".swift"]⟩),
    ("kotlin", ⟨"Kotlin", [".kt", ".kts"]⟩),
    ("scala", ⟨"Scala", [".scala"]⟩)]

end Registry

end DocGraph
