import DocGraph.Scan.ErrorLog
import DocGraph.Module
import DocGraph.Number.Total
import DocGraph.Store

/-!
# The dependency graph

The modules of a tree, known by path and kept in the order in which their paths were first
added; how many of them there are for each language and layer; the store with the rows of all
blocks; and what could not be resolved or read.

A reference of a dependency is resolved to the module with that path, else to the first module
with that URI, else to the first module that has it as its name or ends its path with it.

The path by which a module is known need not be the one that it states. Added once more, a module
that states another path is known by both, and what changes for one of them changes for the other.
-/

set_option autoImplicit false

namespace DocGraph

/-- How often each key occurs. A key that does not occur has no entry. -/
abbrev Histogram := List (String × Nat)

namespace Histogram

/-- The count of a key. -/
def count (h : Histogram) (key : String) : Nat :=
  (h.lookup key).getD 0

/-- Set the count of a key, which is put at the end if it is new. -/
def set (h : Histogram) (key : String) (n : Nat) : Histogram :=
  match h with
  | [] => [(key, n)]
  | (k, m) :: rest => if k = key then (k, n) :: rest else (k, m) :: set rest key n

/-- Count one more; the empty key is not counted. -/
def increment (h : Histogram) (key : String) : Histogram :=
  if key.isEmpty then h else h.set key (h.count key + 1)

/-- Count one less; a key that is left without occurrences loses its entry. -/
def decrement (h : Histogram) (key : String) : Histogram :=
  if key.isEmpty then h
  else if h.count key ≤ 1 then h.filter fun entry => entry.1 ≠ key
  else h.set key (h.count key - 1)

end Histogram

/-- Numbers that describe a graph. -/
structure GraphStats where
  totalModules : Nat := 0
  totalTriples : Nat := 0
  totalRelationships : Nat := 0
  byLanguage : Histogram := []
  byLayer : Histogram := []
  deriving DecidableEq, Repr

namespace GraphStats

/-- Count a module that is added. -/
def remember (s : GraphStats) (m : Module) : GraphStats :=
  { s with
    totalModules := s.totalModules + 1
    byLanguage := s.byLanguage.increment m.language
    byLayer := s.byLayer.increment m.layer }

/-- Count a module that is taken away, as it is now. -/
def forget (s : GraphStats) (m : Module) : GraphStats :=
  { s with
    totalModules := s.totalModules - 1
    byLanguage := s.byLanguage.decrement m.language
    byLayer := s.byLayer.decrement m.layer }

end GraphStats

/-- Modules by path. -/
abbrev ModuleMap := List (String × Module)

namespace ModuleMap

/-- The module with a path. -/
def get? (ms : ModuleMap) (path : String) : Option Module :=
  ms.lookup path

/-- Set the module of a path. A path that is new is put at the end. -/
def set (ms : ModuleMap) (path : String) (m : Module) : ModuleMap :=
  match ms with
  | [] => [(path, m)]
  | (k, old) :: rest => if k = path then (k, m) :: rest else (k, old) :: set rest path m

/-- Change the module of a path, if there is one. -/
def modify (ms : ModuleMap) (path : String) (f : Module → Module) : ModuleMap :=
  ms.map fun entry => if entry.1 = path then (entry.1, f entry.2) else entry

/-- Take a path away. -/
def erase (ms : ModuleMap) (path : String) : ModuleMap :=
  ms.filter fun entry => entry.1 ≠ path

/-- The modules in order. -/
def modules (ms : ModuleMap) : List Module :=
  ms.map Prod.snd

end ModuleMap

/-- Whether a module answers to a reference by its name or the end of its path. -/
def Module.answersTo (m : Module) (reference : String) : Bool :=
  m.name = reference || reference.toList.isSuffixOf m.path.toList

/-- Groups of paths by which one and the same module is known. A path that is in none of them has
its module for itself. -/
abbrev SharedPaths := List (List String)

namespace SharedPaths

/-- The paths that have the module of a path, which is one of them. -/
def group (shared : SharedPaths) (path : String) : List String :=
  (shared.find? fun paths => path ∈ paths).getD [path]

/-- Take a path out of its group. -/
def separate (shared : SharedPaths) (path : String) : SharedPaths :=
  shared.map fun paths => paths.filter (· ≠ path)

/-- Put a path into the group of another. -/
def unite (shared : SharedPaths) (path other : String) : SharedPaths :=
  if path ∈ shared.group other then shared
  else (path :: shared.group other) :: (shared.separate path).filter (other ∉ ·)

end SharedPaths

/-- A dependency graph. -/
structure Graph where
  root : String
  modules : ModuleMap := []
  /-- Which paths have a module in common. -/
  shared : SharedPaths := []
  stats : GraphStats := {}
  store : Store := .empty
  /-- Paths of modules with references that no module answers to. -/
  unresolved : List (String × String) := []
  errors : ErrorLog := []

namespace Graph

/-- The module with a path. -/
def get? (g : Graph) (path : String) : Option Module :=
  g.modules.get? path

/-- Add a module under its path. It takes the place of the one that is there. -/
def add (g : Graph) (m : Module) : Graph :=
  let stats :=
    match g.get? m.path with
    | some old => g.stats.forget old
    | none => g.stats
  { g with
    modules := g.modules.set m.path m
    shared := g.shared.separate m.path
    stats := stats.remember m }

/-- Add the module of a path once more, under the path that it states. -/
def addAgain (g : Graph) (path : String) : Graph :=
  match g.get? path with
  | some m => { g.add m with shared := g.shared.unite m.path path }
  | none => g

/-- Take the module of a path away, if there is one. -/
def remove (g : Graph) (path : String) : Graph :=
  match g.get? path with
  | some m =>
    { g with
      modules := g.modules.erase path
      shared := g.shared.separate path
      stats := g.stats.forget m }
  | none => g

/-- Change the module of a path in place, for all paths that have it. The counts do not follow
the change. -/
def modify (g : Graph) (path : String) (f : Module → Module) : Graph :=
  { g with modules := (g.shared.group path).foldl (fun ms p => ms.modify p f) g.modules }

/-- The entry that a reference resolves to. -/
def resolve? (ms : ModuleMap) (reference : String) : Option (String × Module) :=
  if reference.isEmpty then none
  else
    (ms.find? fun e => e.1 = reference)
      <|> (ms.find? fun e => e.2.uri = reference)
      <|> (ms.find? fun e => e.2.answersTo reference)

/-- The module that a reference resolves to. -/
def find? (g : Graph) (reference : String) : Option Module :=
  (resolve? g.modules reference).map Prod.snd

/-- The references that the module of a path declares. -/
def dependencies (g : Graph) (path : String) : List String :=
  match g.get? path with
  | some m => m.dependencies
  | none => []

/-- The paths of the modules that depend on a path. A path without a module is looked for in
what all modules declare. -/
def dependents (g : Graph) (path : String) : List String :=
  match g.get? path with
  | some m => m.dependents
  | none => (g.modules.modules.filter fun m => path ∈ m.dependencies).map Module.path

/-- The modules of a language. -/
def withLanguage (g : Graph) (language : String) : List Module :=
  g.modules.modules.filter fun m => m.language = language

/-- The modules of a layer. -/
def withLayer (g : Graph) (layer : String) : List Module :=
  g.modules.modules.filter fun m => m.layer = layer

/-- The modules with a tag. -/
def withTag (g : Graph) (tag : String) : List Module :=
  g.modules.modules.filter fun m => tag ∈ m.tags

/-- The number of dependencies and calls that all modules declare. -/
def relationships (g : Graph) : Nat :=
  Number.total (g.modules.modules.map fun m => m.dependencies.length + m.calls.length)

/-- The graph in one line. -/
def summary (g : Graph) : String :=
  "Graph(root=" ++ Text.quoted g.root ++ ", modules=" ++ toString g.modules.length ++ ")"

/-- Note one dependency of a module: the module that it resolves to learns of it, or it is
listed as unresolved. -/
def linkOne (g : Graph) (path reference : String) : Graph :=
  match resolve? g.modules reference with
  | some target => g.modify target.1 fun m => m.addDependent path
  | none => { g with unresolved := g.unresolved ++ [(path, reference)] }

/-- Note every dependency of every module, in order. -/
def link (g : Graph) : Graph :=
  (g.modules.modules.flatMap fun m => m.dependencies.map (m.path, ·)).foldl
    (fun g edge => g.linkOne edge.1 edge.2) g

end Graph

end DocGraph
