import DocGraph.FileSystem
import DocGraph.Number.Total
import DocGraph.Scan.ErrorLog
import DocGraph.Timestamp

/-!
# What a scan finds

The record of a source file, and what a scan has come to so far. A scan is a sequence of events:
a file was looked at, a record was kept, or something failed. `ScanState.record` takes in one
event, and decides whether a failure ends the scan.
-/

set_option autoImplicit false

namespace DocGraph

/-- A source file that a scan found. -/
structure FileRecord where
  path : Path
  language : String
  /-- The size in bytes. -/
  size : Nat
  modified : Timestamp
  /-- Whether the file has the mark that a block starts with. -/
  hasBlock : Bool
  deriving DecidableEq, Repr

/-- What a scan has found. -/
structure ScanResult where
  files : List FileRecord := []
  errors : ErrorLog := []
  /-- How many files were looked at, or could not be. -/
  scanned : Nat := 0
  failed : Nat := 0
  deriving DecidableEq, Repr

namespace ScanResult

/-- The sum of the sizes. -/
def totalBytes (r : ScanResult) : Nat :=
  Number.total (r.files.map FileRecord.size)

/-- The records of files with a block. -/
def linked (r : ScanResult) : List FileRecord :=
  r.files.filter FileRecord.hasBlock

end ScanResult

/-- Why a scan was given up. -/
inductive Abort where
  /-- A failure in a scan that allows none. -/
  | strict (path : Path) (failure : Failure)
  /-- As many failures as are allowed. -/
  | tooManyErrors (limit : Int)
  deriving DecidableEq, Repr

/-- The words for giving up. -/
def Abort.message : Abort → String
  | .strict path failure => "strict mode: " ++ path.toString ++ ": " ++ failure.message
  | .tooManyErrors limit => "max errors (" ++ toString limit ++ ") reached"

/-- When failures end a scan. -/
structure AbortPolicy where
  strict : Bool := false
  /-- How many failures end the scan; zero sets no limit. -/
  maxErrors : Int := 0
  deriving DecidableEq, Repr

/-- Whether and why a failure ends a scan, if it is the given one in number. -/
def AbortPolicy.decide? (policy : AbortPolicy) (count : Nat) (path : Path) (failure : Failure) :
    Option Abort :=
  if policy.strict then some (.strict path failure)
  else if policy.maxErrors ≠ 0 && policy.maxErrors ≤ count then
    some (.tooManyErrors policy.maxErrors)
  else none

/-- Something that happens in a scan. -/
inductive ScanEvent where
  /-- A file was looked at. -/
  | scanned
  | kept (record : FileRecord)
  /-- Something failed; `counts` says whether it also counts as a file that was looked at. -/
  | failed (path : Path) (failure : Failure) (counts : Bool)
  deriving DecidableEq, Repr

/-- What a scan has come to so far. -/
structure ScanState where
  result : ScanResult := {}
  abort : Option Abort := none
  deriving DecidableEq, Repr

namespace ScanState

/-- Take in an event. The first reason to give up is kept. -/
def record (policy : AbortPolicy) (s : ScanState) : ScanEvent → ScanState
  | .scanned => { s with result := { s.result with scanned := s.result.scanned + 1 } }
  | .kept file => { s with result := { s.result with files := s.result.files ++ [file] } }
  | .failed path failure counts =>
    let entry : CollectedError :=
      { file := path.toString, message := failure.message, cause := some failure.cause }
    let failed := s.result.failed + 1
    { result :=
        { s.result with
          errors := s.result.errors ++ [entry]
          scanned := s.result.scanned + (if counts then 1 else 0)
          failed := failed }
      abort := s.abort <|> policy.decide? failed path failure }

/-- Take in events, one after the other. -/
def recordAll (policy : AbortPolicy) (s : ScanState) (events : List ScanEvent) : ScanState :=
  events.foldl (record policy) s

end ScanState

end DocGraph
