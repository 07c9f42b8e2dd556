import DocGraph.Text.Quoted

/-!
# Collected errors

What went wrong with single files during a scan or a build. One bad file does not end the work,
so its error is put on a list, with the file, the words, the line if one is known, and what
kind of failure it was. The report shows the first entries of the list.
-/

set_option autoImplicit false

namespace DocGraph

/-- Why the file system refuses an operation. -/
inductive SystemFault where
  | notFound
  | permissionDenied
  | notADirectory
  | isADirectory
  | nameTooLong
  | tooManyLinks
  /-- Any other fault, with its number and the words for it. -/
  | other (number : Nat) (words : String)
  /-- There is a null character in the path, so the file system is not even asked. -/
  | nullCharacter
  deriving DecidableEq, Repr

/-- The number of a fault that the file system reports. -/
def SystemFault.code? : SystemFault → Option Nat
  | .notFound => some 2
  | .permissionDenied => some 13
  | .notADirectory => some 20
  | .isADirectory => some 21
  | .nameTooLong => some 36
  | .tooManyLinks => some 40
  | .other number _ => some number
  | .nullCharacter => none

/-- A fault that the file system itself reports, with a number. -/
abbrev ReportedFault :=
  { fault : SystemFault // fault.code?.isSome }

/-- The words for a fault of the file system. -/
def SystemFault.text : SystemFault → String
  | .notFound => "No such file or directory"
  | .permissionDenied => "Permission denied"
  | .notADirectory => "Not a directory"
  | .isADirectory => "Is a directory"
  | .nameTooLong => "File name too long"
  | .tooManyLinks => "Too many levels of symbolic links"
  | .other _ words => words
  | .nullCharacter => "embedded null byte"

/-- A fault of the file system and the path it is about. -/
structure SystemError where
  fault : SystemFault
  path : String
  deriving DecidableEq, Repr

/-- The words for an error of the file system. -/
def SystemError.message (e : SystemError) : String :=
  match e.fault.code? with
  | some code =>
    "[Errno " ++ toString code ++ "] " ++ e.fault.text ++ ": " ++ Text.quoted e.path
  | none => e.fault.text

/-- The kind of a failure. -/
inductive Cause where
  /-- The block of the file is not in the language. -/
  | grammar
  /-- The file system refused an operation, for a reason that may be known. -/
  | system (fault : Option SystemFault)
  /-- The content of the file could not be made sense of. -/
  | content
  deriving DecidableEq, Repr

/-- A failure: its kind and the words for it. -/
structure Failure where
  cause : Cause
  message : String
  deriving DecidableEq, Repr

/-- An error of the file system as a failure. A path that cannot be one is at fault itself. -/
def SystemError.failure (e : SystemError) : Failure :=
  ⟨if e.fault = .nullCharacter then .content else .system (some e.fault), e.message⟩

/-- An entry of the list. -/
structure CollectedError where
  file : String
  message : String
  line : Option Int := none
  cause : Option Cause := none
  deriving DecidableEq, Repr

/-- An entry in one line: the file, the line unless it is unknown or zero, and the words. -/
def CollectedError.text (e : CollectedError) : String :=
  match e.line.filter (· ≠ 0) with
  | some n => e.file ++ ":" ++ toString n ++ ": " ++ e.message
  | none => e.file ++ ": " ++ e.message

/-- The errors collected so far, oldest first. -/
abbrev ErrorLog := List CollectedError

/-- How many entries a report shows unless it is told otherwise. -/
def reportLimit : Int := 10

/-- The first entries of a list; a negative number leaves out as many at the end. -/
def takeSigned {α : Type} (limit : Int) (xs : List α) : List α :=
  if 0 ≤ limit then xs.take limit.toNat else xs.take (xs.length - limit.natAbs)

namespace ErrorLog

/-- The report: how many errors there are, the first of them, and how many are left out. There
is no report without errors. -/
def report (log : ErrorLog) (limit : Int) : String :=
  if log.isEmpty then ""
  else
    let heading := [toString log.length ++ " error(s) encountered:", ""]
    let shown := (takeSigned limit log).map fun e => "  • " ++ e.text
    let hidden := (log.length : Int) - limit
    let ending := if hidden > 0 then ["", "... and " ++ toString hidden ++ " more error(s)"] else []
    "\n".intercalate (heading ++ shown ++ ending) ++ "\n"

end ErrorLog

end DocGraph
