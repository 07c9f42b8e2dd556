import DocGraph.Number.Binary64
import DocGraph.Path
import DocGraph.Sample.Choice
import DocGraph.Scan.ErrorLog
import DocGraph.Text.LowerCase

/-!
# Sampling files

Cutting a list of files down to a size: at random, at random with a share for every directory,
or to those modified last. A list that is not longer than the size stays as it is.
-/

set_option autoImplicit false

namespace DocGraph

/-- How files are picked. -/
inductive Strategy where
  | random
  /-- Every directory has a share. -/
  | stratified
  /-- Those modified last. -/
  | recent
  deriving DecidableEq, Repr

namespace Strategy

/-- The name of a strategy. -/
def name : Strategy → String
  | .random => "random"
  | .stratified => "stratified"
  | .recent => "recent"

/-- All strategies. -/
def all : List Strategy := [.random, .stratified, .recent]

/-- The strategy of a name. -/
def ofName? (name : String) : Option Strategy :=
  all.find? fun s => s.name = name

/-- The strategy of a name in any case; unknown names stand for the random one. -/
def parse (name : String) : Strategy :=
  (ofName? (Text.lower name)).getD .random

end Strategy

/-- The words for a name that no strategy has. -/
def unknownStrategyMessage (name : String) : String :=
  Text.quoted name ++ " is not a valid SamplingStrategy"

/-- Why there is no sample: a sample of less than no files cannot be drawn. -/
inductive SampleError where
  | negativeSize
  /-- Nothing can be found out about a file. -/
  | refused (fault : SystemFault)
  deriving DecidableEq, Repr

/-- The words for a sampling error. -/
def SampleError.message : SampleError → String
  | .negativeSize => "Sample larger than population or is negative"
  | .refused fault => fault.text

/-- Picks files. Drawing moves the generator on. -/
structure Sampler where
  strategy : Strategy
  size : Int
  generator : Generator

/-- What a sample is like. -/
structure SampleStats where
  totalFiles : Nat
  sampledFiles : Nat
  strategy : Strategy
  /-- How many files of each directory were picked, in the order of the sample. -/
  directoryCounts : List (String × Nat)

/-- Count a directory. -/
def countDirectory (counts : List (String × Nat)) (directory : String) : List (String × Nat) :=
  match counts with
  | [] => [(directory, 1)]
  | (d, n) :: rest =>
    if d = directory then (d, n + 1) :: rest else (d, n) :: countDirectory rest directory

/-- Put a file with those of its directory. -/
def groupFile (groups : List (String × List String)) (file : String) :
    List (String × List String) :=
  match groups with
  | [] => [(directoryOf file, [file])]
  | (d, files) :: rest =>
    if d = directoryOf file then (d, files ++ [file]) :: rest else (d, files) :: groupFile rest file

/-- The files of each directory, directories in order. -/
def byDirectory (files : List String) : List (String × List String) :=
  (files.foldl groupFile []).mergeSort fun a b => !(b.1 < a.1)

/-- Whether a time is no earlier than another; an unknown one is before all others. -/
def isNoEarlier (a b : Option Rat) : Bool :=
  match a, b with
  | _, none => true
  | none, some _ => false
  | some x, some y => y ≤ x

namespace Sampler

/-- A sampler that starts from a seed. -/
def ofSeed (strategy : Strategy) (size seed : Int) : Sampler :=
  ⟨strategy, size, .ofSeed seed⟩

/-- Pick so many of the files at random; all of them if there are no more. -/
def pickAtRandom (g : Generator) (files : List String) (count : Nat) : List String × Generator :=
  if files.length ≤ count then (files, g) else g.choose files count

/-- The share of a directory in a sample, in proportion to its files but at least one. The quotient is
held in double precision. -/
def shareOf (size total count : Nat) : Nat :=
  max 1 (Number.nearest ((size * count : Nat) / (total : Rat))).floor.toNat

/-- Give each directory its share, as long as some are left. The last one takes what is left. -/
def pickShares (size total : Nat) (remaining : Nat) :
    List (String × List String) → Generator → List String × Generator
  | [], g => ([], g)
  | (_, files) :: rest, g =>
    let share := if rest.isEmpty then remaining else shareOf size total files.length
    let count := min (min share files.length) remaining
    let (picked, g) := if count = 0 then ([], g) else pickAtRandom g files count
    if remaining ≤ count then (picked, g)
    else
      let (more, g) := pickShares size total (remaining - count) rest g
      (picked ++ more, g)

/-- The time that a file is sorted by, given what the file system says about each path: if it refuses to
say anything, the time is unknown. A path that it is not even asked about has none. -/
def sortTime (modified : String → Except SystemFault Rat) (file : String) :
    Except SystemFault (Option Rat) :=
  match modified file with
  | .ok time => .ok (some time)
  | .error .nullCharacter => .error .nullCharacter
  | .error _ => .ok none

/-- The files modified last, newest first. -/
def pickRecent (modified : String → Except SystemFault Rat) (size : Int) (files : List String) :
    Except SystemFault (List String) := do
  let dated ← files.mapM fun file => do return (← sortTime modified file, file)
  let ordered := dated.mergeSort fun a b => isNoEarlier a.1 b.1
  return (takeSigned size ordered).map Prod.snd

/-- Pick files, given when each was modified. -/
def sample (s : Sampler) (modified : String → Except SystemFault Rat)
    (files : List String) : Except SampleError (List String × Sampler) :=
  if (files.length : Int) ≤ s.size then .ok (files, s)
  else
    match s.strategy with
    | .recent => ((pickRecent modified s.size files).mapError .refused).map (·, s)
    | .stratified =>
      let (picked, g) :=
        pickShares s.size.toNat files.length s.size.toNat (byDirectory files) s.generator
      .ok (picked, { s with generator := g })
    | .random =>
      if s.size < 0 then .error .negativeSize
      else
        let (picked, g) := s.generator.choose files s.size.toNat
        .ok (picked, { s with generator := g })

/-- What a sample of some files is like. -/
def stats (s : Sampler) (files sampled : List String) : SampleStats :=
  ⟨files.length, sampled.length, s.strategy,
    (sampled.map directoryOf).foldl countDirectory []⟩

end Sampler

end DocGraph
