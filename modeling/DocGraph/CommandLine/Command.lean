import DocGraph.CommandLine.Arguments
import DocGraph.FileSystem
import DocGraph.Sample.Sampler
import DocGraph.Scan.Options

/-!
# Commands

The two commands of the program, what they take, and how their arguments become a request: `scan`
lists the source files below a root, `build` builds the graph of a tree and shows its numbers.
-/

set_option autoImplicit false

namespace DocGraph

/-- What both commands take for the scan. -/
structure ScanArguments where
  exclude : List String
  maxFileSize : Option Int
  workers : Option Int
  sequential : Bool
  strict : Bool
  maxErrors : Int
  verbose : Bool
  deriving DecidableEq, Repr

/-- What is asked of the program. -/
inductive Request where
  /-- The help of the program, or of a command. -/
  | help (command : Option String)
  | version
  | scan (root : String) (arguments : ScanArguments) (focus : List String) (sample : Option Int)
      (strategy : String) (seed : Option Int) (asJson : Bool)
  | build (root : String) (arguments : ScanArguments) (validate progress : Bool)
  deriving DecidableEq, Repr

namespace CommandLine

/-- The name of the program. -/
def programName : String := "graphfs"

/-- The version of the program. -/
def versionText : String := "0.4.0"

/-- The option that every command has. -/
def helpOption : OptionSpec :=
  ⟨["--help"], .flag, "Show this message and exit."⟩

/-- The options of the program itself. -/
def programOptions : List OptionSpec :=
  [⟨["--version"], .flag, "Show the graphfs version and exit."⟩, helpOption]

/-- The options that both commands have. -/
def sharedOptions : List OptionSpec :=
  [⟨["--exclude", "-e"], .text, "Extra ignore pattern (repeatable)"⟩,
    ⟨["--max-file-size"], .integer (some 0), "Largest file in bytes"⟩,
    ⟨["--workers", "-w"], .integer (some 0), "Worker threads"⟩,
    ⟨["--sequential"], .flag, "Scan on a single thread"⟩,
    ⟨["--strict"], .flag, "Abort on the first error"⟩,
    ⟨["--max-errors"], .integer (some 0), "Abort after this many errors (0 = unlimited)"⟩,
    ⟨["--verbose", "-v"], .flag, "Log at INFO level"⟩]

/-- The options of the command that scans. -/
def scanOptions : List OptionSpec :=
  sharedOptions ++
    [⟨["--focus", "-f"], .text, "Keep files matching glob"⟩,
      ⟨["--sample"], .integer (some 1), "Sample N files"⟩,
      ⟨["--sample-strategy"], .choice (Strategy.all.map Strategy.name), "How files are sampled"⟩,
      ⟨["--seed"], .integer none, "Seed for random sampling"⟩,
      ⟨["--json"], .flag, "Output as JSON"⟩, helpOption]

/-- The options of the command that builds. -/
def buildOptions : List OptionSpec :=
  sharedOptions ++
    [⟨["--validate"], .flag, "Fail on validation errors"⟩,
      ⟨["--progress"], .flag, "Report build progress"⟩, helpOption]

/-- The name of the argument of both commands. -/
def rootName : String := "ROOT"

/-- Says whether a path given as text leads to a file. -/
abbrev FileTest := String → Except SystemFault Bool

/-- Look at the root, which must not be a file. -/
def checkRoot (isFile : FileTest) (root : Option String) : Except UsageError String :=
  match root with
  | none => .error (.missingArgument rootName)
  | some path =>
    match isFile path with
    | .ok false => .ok path
    | .ok true =>
      .error (.invalidValue [rootName] ("Directory " ++ Text.quoted path ++ " is a file."))
    | .error fault => .error (.refused fault)

/-- Look at the values of options and at the root, which is all that may be left. -/
def settle (isFile : FileTest) (s : ArgumentState) : Except UsageError String := do
  s.check
  let root ← checkRoot isFile s.plain.head?
  match s.plain.tail with
  | [] => return root
  | extra => throw (.extraArguments extra)

/-- What is given for the scan. -/
def scanArguments (s : ArgumentState) : ScanArguments where
  exclude := s.values "--exclude"
  maxFileSize := s.integer? "--max-file-size"
  workers := s.integer? "--workers"
  sequential := s.has "--sequential"
  strict := s.has "--strict"
  maxErrors := (s.integer? "--max-errors").getD 0
  verbose := s.has "--verbose"

/-- Read the arguments of the command that scans. -/
def scanRequest (isFile : FileTest) (arguments : List String) :
    Except UsageError Request := do
  let s ← ArgumentState.read scanOptions true arguments
  if s.has "--help" then return .help (some "scan")
  let root ← settle isFile s
  return .scan root (scanArguments s) (s.values "--focus") (s.integer? "--sample")
    ((s.value? "--sample-strategy").getD Strategy.random.name) (s.integer? "--seed")
    (s.has "--json")

/-- Read the arguments of the command that builds. -/
def buildRequest (isFile : FileTest) (arguments : List String) :
    Except UsageError Request := do
  let s ← ArgumentState.read buildOptions true arguments
  if s.has "--help" then return .help (some "build")
  let root ← settle isFile s
  return .build root (scanArguments s) (s.has "--validate") (s.has "--progress")

/-- The names of the commands. -/
def commandNames : List String := ["scan", "build"]

/-- What is asked with arguments that start with the name of a command that there is not. Two
dashes may have kept it from being read as an option of the program, so this is made up for. -/
def unknownCommand (command : String) (rest : List String) : Except UsageError Request := do
  let s ← ArgumentState.read programOptions false (command :: rest)
  if s.has "--help" then return .help none
  throw (.noSuchCommand command (Text.closest command commandNames))

/-- Read the arguments of the program. Options in front of the command are its own. -/
def readRequest (isFile : FileTest) (arguments : List String) : Except UsageError Request := do
  let s ← ArgumentState.read programOptions false arguments
  if s.has "--help" then return .help none
  match s.plain with
  | [] => return if s.has "--version" then .version else .help none
  | command :: rest =>
    if command ∉ commandNames then unknownCommand command rest
    else if s.has "--version" then return .version
    else if command = "scan" then scanRequest isFile rest
    else buildRequest isFile rest

/-- The line that says how a command is used. -/
def usage : Option String → String
  | none => "Usage: " ++ programName ++ " [OPTIONS] [COMMAND] [ARGS]..."
  | some command => "Usage: " ++ programName ++ " " ++ command ++ " [OPTIONS] " ++ rootName

/-- The options of a command, or of the program. -/
def optionsOf (command : Option String) : List OptionSpec :=
  match command with
  | some "scan" => scanOptions
  | some "build" => buildOptions
  | _ => programOptions

/-- The help below the usage line. -/
def helpLines (command : Option String) : List String :=
  (optionsOf command).map fun o => "  " ++ ", ".intercalate o.names ++ "  " ++ o.help

/-- The fields of the options of a scan that arguments give. -/
def optionFields (a : ScanArguments) : List (String × Value) :=
  [("exclude_patterns", .list (a.exclude.map .text)), ("strict", .switch a.strict),
      ("max_errors", .integer a.maxErrors)] ++
    (a.maxFileSize.map fun n => ("max_file_size", Value.integer n)).toList ++
    (a.workers.map fun n => ("workers", Value.integer n)).toList ++
    (if a.sequential then [("concurrent", .switch false)] else [])

end CommandLine

end DocGraph
