import DocGraph.Block.GrammarError
import DocGraph.Language
import DocGraph.Scan.Record

/-!
# Looking at one file

What is found out about a file: its size, its language, when it was modified, and whether it has
a block. Only the mark at the start of a block is looked for, in the raw bytes, so a file without
it is never parsed.

A file system may refuse what is asked of it, or hand out what makes no sense. `Obstacles` says
where it does so. What is asked of it when a scan looks at a file is told by `Site.stepsAt`, between
the events that come of it, and `Site.inspect` is what is left of that without the questions.
-/

set_option autoImplicit false

namespace DocGraph

/-- Where a file system gets in the way: which directories cannot be listed, of which of their
entries it cannot be told what they are, of which files nothing can be found out, and which cannot
be read in search of a block. -/
structure Obstacles where
  listing : Path → Option ReportedFault := fun _ => none
  kind : Path → Option ReportedFault := fun _ => none
  status : Path → Option ReportedFault := fun _ => none
  reading : Path → Option Failure := fun _ => none

/-- Where a scan takes place: a file system with its obstacles, and a number of processors. -/
structure Site where
  files : FileSystem
  obstacles : Obstacles := {}
  /-- The nanoseconds from the epoch to the last modification of a directory, which is given by its
  real path. A directory is modified by what is put into it, so unless something else is said, it is
  newer than files that are given an old time. -/
  directoryTime : Path → Int := fun _ => 1735689600000000000
  processors : Nat := 1

/-- What a scan asks of the file system. -/
inductive Query where
  | listing (directory : Path)
  /-- Whether an entry of a directory is a directory or a file. -/
  | kind (path : Path)
  | status (path : Path)
  | content (path : Path)
  deriving DecidableEq, Repr

/-- What a scan does. -/
inductive ScanStep where
  | ask (query : Query)
  | note (event : ScanEvent)
  deriving DecidableEq, Repr

namespace ScanStep

/-- The event that a step notes, if it does. -/
def event? : ScanStep → Option ScanEvent
  | .ask _ => none
  | .note event => some event

/-- The events that steps note. -/
def events (steps : List ScanStep) : List ScanEvent :=
  steps.filterMap event?

end ScanStep

/-- A fault on the way to a path, as a failure. -/
def SystemFault.failureAt (fault : SystemFault) (path : Path) : Failure :=
  SystemError.failure ⟨fault, path.toString⟩

/-- Whether bytes have the mark that a block starts with. -/
def hasStartMark (content : List UInt8) : Bool :=
  Text.occursIn Block.startMarker.toUTF8.toList content

/-- The bytes of a file and when it was modified, in nanoseconds. -/
structure FileStatus where
  content : List UInt8
  modified : Int

namespace Site

/-- The file that a path leads to. -/
def status (site : Site) (path : Path) : Except SystemFault FileStatus :=
  match site.obstacles.status path with
  | some fault => .error fault
  | none =>
    match site.files.locate path with
    | .ok (.file content modified) => .ok ⟨content, modified⟩
    | .ok _ => .error .isADirectory
    | .error fault => .error fault

/-- When that was modified which a path text leads to, in seconds from the epoch. -/
def modified (site : Site) (text : String) : Except SystemFault Rat :=
  let path := Path.ofString text
  match site.files.locateText text, site.obstacles.status path with
  | .error fault, _ => .error fault
  | .ok _, some fault => .error fault
  | .ok (.file _ nanoseconds), none => .ok (secondsOf nanoseconds)
  | .ok _, none => .ok (secondsOf (site.directoryTime (site.files.realPath path)))

/-- Whether a file has a block. -/
def detect (site : Site) (path : Path) (content : List UInt8) : Except Failure Bool :=
  match site.obstacles.reading path with
  | some failure => .error failure
  | none => .ok (hasStartMark content)

/-- The words for a year that no date has. -/
def yearFailure (year : Int) : Failure :=
  ⟨.content, "year " ++ toString year ++ " is out of range"⟩

/-- The record of a file. -/
def makeRecord (path : Path) (language : String) (file : FileStatus) (hasBlock : Bool) :
    Except Failure FileRecord :=
  match Timestamp.ofNanoseconds file.modified with
  | .ok modified => .ok ⟨path, language, file.content.length, modified, hasBlock⟩
  | .error year => .error (yearFailure year)

/-- What a scan looks for in files. -/
structure Criteria where
  registry : Registry
  /-- The size up to which files are kept; zero sets no limit. -/
  maxFileSize : Int

/-- Whether a file is neither too large nor in a language that is not known. -/
def Criteria.admits (criteria : Criteria) (language : String) (size : Nat) : Bool :=
  language ≠ unknownLanguage && (criteria.maxFileSize = 0 || (size : Int) ≤ criteria.maxFileSize)

/-- Read a file and make its record. -/
def examine (site : Site) (path : Path) (language : String) (file : FileStatus) :
    Except Failure FileRecord := do
  let hasBlock ← site.detect path file.content
  makeRecord path language file hasBlock

/-- What is done when a scan comes to a file. That nothing can be found out about it counts as
having looked at it if the file system said so. -/
def stepsAt (site : Site) (criteria : Criteria) (path : Path) : List ScanStep :=
  .ask (.status path) ::
    match site.status path with
    | .error fault => [.note (.failed path (fault.failureAt path) fault.code?.isSome)]
    | .ok file =>
      let language := criteria.registry.detect path.toString
      .note .scanned ::
        if criteria.admits language file.content.length then
          .ask (.content path) ::
            match site.examine path language file with
            | .ok record => [.note (.kept record)]
            | .error failure => [.note (.failed path failure false)]
        else []

/-- What happens when a scan comes to a file. -/
def inspect (site : Site) (criteria : Criteria) (path : Path) : List ScanEvent :=
  ScanStep.events (site.stepsAt criteria path)

/-- The record of a single file, whatever its size and language. If the file system does not let
it be read, no block is seen in it. -/
def recordOf (site : Site) (registry : Registry) (path : Path) : Except Failure FileRecord := do
  match site.status path with
  | .error fault => .error (fault.failureAt path)
  | .ok file =>
    let language := registry.detect path.toString
    let hasBlock ←
      if language = unknownLanguage then .ok false
      else
        match site.detect path file.content with
        | .error ⟨.system _, _⟩ => .ok false
        | other => other
    makeRecord path language file hasBlock

end Site

end DocGraph
