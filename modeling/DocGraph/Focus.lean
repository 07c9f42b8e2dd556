import DocGraph.Glob
import DocGraph.Path

/-!
# Focus

Keeping the files that match one of several globs. A file is tried by its path relative to a
base, if it lies below one, and by its full path. Without globs every file is kept.
-/

set_option autoImplicit false

namespace DocGraph

/-- Globs and the path that files are taken relative to. -/
structure Focus where
  patterns : List String
  base : Option Path
  deriving DecidableEq, Repr

/-- How many files match, and for how many each glob is the first that does, in the order in
which the globs first matched. -/
structure FocusStats where
  totalFiles : Nat
  matchedFiles : Nat
  byPattern : List (String × Nat)
  deriving DecidableEq, Repr

namespace Focus

/-- A focus; the empty text is no base. -/
def ofBase (patterns : List String) (base : String) : Focus :=
  ⟨patterns, if base.isEmpty then none else some (Path.ofString base)⟩

/-- The texts that a file is tried by. -/
def candidates (f : Focus) (file : String) : List String :=
  let path := Path.ofString file
  match f.base.bind path.relativeTo? with
  | some below => [below.toString, path.toString]
  | none => [path.toString]

/-- Whether a glob matches one of several texts. They are tried in order. -/
def matchesSome (pattern : String) : List String → Except GlobError Bool
  | [] => .ok false
  | text :: rest =>
    match Glob.matches? pattern text with
    | .ok true => .ok true
    | .ok false => matchesSome pattern rest
    | .error e => .error e

/-- The first of several globs that matches one of several texts. -/
def firstMatch (texts : List String) : List String → Except GlobError (Option String)
  | [] => .ok none
  | pattern :: rest =>
    match matchesSome pattern texts with
    | .ok true => .ok (some pattern)
    | .ok false => firstMatch texts rest
    | .error e => .error e

/-- The first glob that a file matches. -/
def matchingPattern (f : Focus) (file : String) : Except GlobError (Option String) :=
  firstMatch (f.candidates file) f.patterns

/-- The files that match, each with the first glob that it matches. -/
def matched (f : Focus) : List String → Except GlobError (List (String × String))
  | [] => .ok []
  | file :: rest => do
    let pattern ← f.matchingPattern file
    let more ← f.matched rest
    return (pattern.map (file, ·)).toList ++ more

/-- The files that are kept. -/
def keep (f : Focus) (files : List String) : Except GlobError (List String) :=
  if f.patterns.isEmpty then .ok files else (f.matched files).map (·.map Prod.fst)

/-- The files that match with their globs, each file once. -/
def reasons (f : Focus) (files : List String) : Except GlobError (List (String × String)) :=
  (f.matched files).map fun pairs =>
    pairs.foldl (fun kept pair => if kept.any (·.1 = pair.1) then kept else kept ++ [pair]) []

/-- Count one more for a glob, which is put at the end if it is new. -/
def countOne (counts : List (String × Nat)) (pattern : String) : List (String × Nat) :=
  match counts with
  | [] => [(pattern, 1)]
  | (p, n) :: rest => if p = pattern then (p, n + 1) :: rest else (p, n) :: countOne rest pattern

/-- The files that are kept, with their statistics. -/
def keepWithStats (f : Focus) (files : List String) :
    Except GlobError (List String × FocusStats) :=
  if f.patterns.isEmpty then .ok (files, ⟨files.length, files.length, []⟩)
  else
    (f.matched files).map fun pairs =>
      (pairs.map Prod.fst,
        ⟨files.length, pairs.length, (pairs.map Prod.snd).foldl countOne []⟩)

end Focus

end DocGraph
