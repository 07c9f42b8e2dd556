import DocGraph.Path
import DocGraph.Triple
import DocGraph.Text.Blank

/-!
# Modules

A module is a source file as its metadata block describes it. Its fields are filled by routing
pairs of a predicate and a value: the local name of the predicate names the field, and what
has no field of its own goes to the properties under the full predicate.
-/

set_option autoImplicit false

namespace DocGraph

/-- A source file described by its block, known by its path below the root. -/
structure Module where
  path : String
  uri : String
  name : String := ""
  description : String := ""
  language : String := ""
  layer : String := ""
  tags : List String := []
  dependencies : List String := []
  /-- The modules that depend on this one; known only after linking. -/
  dependents : List String := []
  exports : List String := []
  calls : List String := []
  /-- The values of the predicates that have no field, by predicate, in order of first use. -/
  properties : List (String × List String) := []
  deriving DecidableEq, Repr

/-- Add a value at the end of a list unless the list has it. -/
def addOnce (values : List String) (value : String) : List String :=
  if value ∈ values then values else values ++ [value]

/-- Add a value to those of a key, which is put at the end if it is new. -/
def addUnder (table : List (String × List String)) (key value : String) :
    List (String × List String) :=
  match table with
  | [] => [(key, [value])]
  | (k, values) :: rest =>
    if k = key then (k, values ++ [value]) :: rest else (k, values) :: addUnder rest key value

/-- Take a pair of angle brackets off a reference. -/
def stripAngles (s : List Char) : List Char :=
  if s.head? = some '<' && s.getLast? = some '>' then s.tail.dropLast else s

/-- Whether a reference is relative: it holds two dots in a row or starts with a dot and a
slash. -/
def isRelative (s : List Char) : Bool :=
  Text.occursIn ['.', '.'] s || ['.', '/'].isPrefixOf s

/-- The path that a dependency stands for, declared in the module at a path. A relative
reference starts from the directory of the module; all others stay as they are. -/
def resolveDependency (reference modulePath : String) : String :=
  let s := stripAngles (Text.trim reference.toList)
  let plain := String.ofList s
  if isRelative s then normalText (joinTexts (directoryOf modulePath) plain) else plain

/-- What a predicate says about a module. -/
inductive Field where
  | name
  | description
  | language
  | layer
  | tag
  | dependency
  | exported
  | call
  deriving DecidableEq, Repr

/-- The field that a local name stands for. -/
def Field.ofLocalName? : String → Option Field
  | "name" => some .name
  | "description" => some .description
  | "language" => some .language
  | "layer" => some .layer
  | "tags" => some .tag
  | "tag" => some .tag
  | "linksTo" => some .dependency
  | "dependsOn" => some .dependency
  | "exports" => some .exported
  | "calls" => some .call
  | _ => none

namespace Module

/-- Add the reference of a dependency as it is. -/
def addDependency (m : Module) (reference : String) : Module :=
  { m with dependencies := addOnce m.dependencies reference }

/-- Add the path of a module that depends on this one. -/
def addDependent (m : Module) (path : String) : Module :=
  { m with dependents := addOnce m.dependents path }

/-- Add an exported name. -/
def addExport (m : Module) (value : String) : Module :=
  { m with exports := addOnce m.exports value }

/-- Add a called name. -/
def addCall (m : Module) (value : String) : Module :=
  { m with calls := addOnce m.calls value }

/-- Add a tag. -/
def addTag (m : Module) (value : String) : Module :=
  { m with tags := addOnce m.tags value }

/-- Add a value of a predicate that has no field. -/
def addProperty (m : Module) (predicate value : String) : Module :=
  { m with properties := addUnder m.properties predicate value }

/-- Give a value to a field: single values are replaced, lists grow. -/
def put (m : Module) (value : String) : Field → Module
  | .name => { m with name := value }
  | .description => { m with description := value }
  | .language => { m with language := value }
  | .layer => { m with layer := value }
  | .tag => m.addTag value
  | .dependency => m.addDependency (resolveDependency value m.path)
  | .exported => m.addExport value
  | .call => m.addCall value

/-- Route a value to the field of its predicate. -/
def apply (m : Module) (predicate value : String) : Module :=
  match Field.ofLocalName? (localName predicate) with
  | some field => m.put value field
  | none => m.addProperty predicate value

end Module

end DocGraph
