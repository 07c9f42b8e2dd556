import DocGraph.Number.Integer
import DocGraph.Scan.ErrorLog
import DocGraph.Text.Similarity

/-!
# Arguments

Reading the arguments of a command: options, which start with one or two dashes and may take a
value, and plain arguments. An option with two dashes takes its value behind an equals sign or
from the next argument; short options may be put together, and the rest of such an argument, if
there is any, is the value. Behind two bare dashes everything is plain.

Arguments are read from left to right, and the first thing that is wrong is reported. Only then
are the values of options looked at. In place of a name that is not known, names that are close
to it are suggested.
-/

set_option autoImplicit false

namespace DocGraph

/-- What an option takes. -/
inductive OptionKind where
  | flag
  | text
  /-- A whole number, perhaps not below a least one. -/
  | integer (least : Option Int)
  | choice (names : List String)
  deriving DecidableEq, Repr

/-- An option of a command. -/
structure OptionSpec where
  /-- How it is written, with its dashes. -/
  names : List String
  kind : OptionKind
  help : String
  deriving DecidableEq, Repr

/-- What is wrong with the arguments. -/
inductive UsageError where
  /-- There is no such option, but there are similar ones. -/
  | noSuchOption (name : String) (similar : List String)
  | noSuchCommand (name : String) (similar : List String)
  | needsValue (option : String)
  | takesNoValue (option : String)
  | missingArgument (name : String)
  /-- A value that the named option or argument does not take, and why. -/
  | invalidValue (names : List String) (reason : String)
  /-- What an argument names cannot be looked at. -/
  | refused (fault : SystemFault)
  | extraArguments (arguments : List String)
  deriving DecidableEq, Repr

/-- The words that suggest names, if there are any. -/
def suggestion : List String → String
  | [] => ""
  | [name] => " Did you mean " ++ Text.quoted name ++ "?"
  | names => " (Did you mean one of: " ++ ", ".intercalate (names.map Text.quoted) ++ "?)"

/-- The words for what is wrong with the arguments. -/
def UsageError.message : UsageError → String
  | .noSuchOption name similar =>
    "No such option " ++ Text.quoted name ++ "." ++ suggestion similar
  | .noSuchCommand name similar =>
    "No such command " ++ Text.quoted name ++ "." ++ suggestion similar
  | .needsValue option => "Option " ++ Text.quoted option ++ " requires an argument."
  | .takesNoValue option => "Option " ++ Text.quoted option ++ " does not take a value."
  | .missingArgument name => "Missing argument '" ++ name ++ "'."
  | .invalidValue names reason =>
    "Invalid value for " ++ " / ".intercalate (names.map fun name => "'" ++ name ++ "'") ++ ": " ++
      reason
  | .refused fault => fault.text
  | .extraArguments arguments =>
    "Got unexpected extra argument" ++ (if arguments.length = 1 then "" else "s") ++ " (" ++
      " ".intercalate arguments ++ ")"

/-- An option as it was given: without a value if it takes none. -/
abbrev GivenOption := OptionSpec × Option String

/-- What has been read of the arguments. -/
structure ArgumentState where
  given : List GivenOption := []
  plain : List String := []
  /-- An option that waits for its value, and how it was written. -/
  waiting : Option (OptionSpec × String) := none
  /-- Whether all that follows is plain. -/
  closed : Bool := false

namespace ArgumentState

/-- The option that is written in some way. -/
def find? (options : List OptionSpec) (name : String) : Option OptionSpec :=
  options.find? fun o => name ∈ o.names

/-- Whether an option is a flag. -/
def isFlag (o : OptionSpec) : Bool :=
  o.kind = .flag

/-- Whether an option is written with two dashes. -/
def isLong (name : List Char) : Bool :=
  ['-', '-'].isPrefixOf name

/-- The names of options that are written with two dashes. -/
def longNames (options : List OptionSpec) : List String :=
  (options.flatMap OptionSpec.names).filter fun name => isLong name.toList

/-- Take in an option with two dashes, and the value attached to it. -/
def takeLong (s : ArgumentState) (o : OptionSpec) (name : String) (value : Option String) :
    Except UsageError ArgumentState :=
  match isFlag o, value with
  | true, none => .ok { s with given := s.given ++ [(o, none)] }
  | true, some _ => .error (.takesNoValue name)
  | false, some v => .ok { s with given := s.given ++ [(o, some v)] }
  | false, none => .ok { s with waiting := some (o, name) }

/-- Take in short options that are put together. -/
def takeShort (options : List OptionSpec) (s : ArgumentState) :
    List Char → Except UsageError ArgumentState
  | [] => .ok s
  | c :: rest =>
    let name := String.ofList ['-', c]
    match find? options name with
    | none => .error (.noSuchOption name [])
    | some o =>
      if isFlag o then takeShort options { s with given := s.given ++ [(o, none)] } rest
      else if rest.isEmpty then .ok { s with waiting := some (o, name) }
      else .ok { s with given := s.given ++ [(o, some (String.ofList rest))] }

/-- Take in an argument that starts with a dash. -/
def takeOption (options : List OptionSpec) (s : ArgumentState) (argument : List Char) :
    Except UsageError ArgumentState :=
  let (name, value) :=
    match Text.breakOn ['='] argument with
    | some (name, value) => (name, some (String.ofList value))
    | none => (argument, none)
  let found := if isLong name then find? options (String.ofList name) else none
  match found with
  | some o => s.takeLong o (String.ofList name) value
  | none =>
    if isLong argument then
      let name := String.ofList name
      .error (.noSuchOption name (Text.closest name (longNames options)))
    else takeShort options s argument.tail

/-- Take in an argument. `mixed` says whether options may follow plain arguments. -/
def step (options : List OptionSpec) (mixed : Bool) (s : ArgumentState) (argument : String) :
    Except UsageError ArgumentState :=
  match s.waiting with
  | some (o, _) => .ok { s with given := s.given ++ [(o, some argument)], waiting := none }
  | none =>
    if s.closed then .ok { s with plain := s.plain ++ [argument] }
    else if argument = "--" then .ok { s with closed := true }
    else if argument.toList.head? = some '-' && argument ≠ "-" then
      s.takeOption options argument.toList
    else .ok { s with plain := s.plain ++ [argument], closed := !mixed }

/-- Read arguments. -/
def read (options : List OptionSpec) (mixed : Bool) (arguments : List String) :
    Except UsageError ArgumentState := do
  let s ← arguments.foldlM (step options mixed) {}
  match s.waiting with
  | some (_, name) => .error (.needsValue name)
  | none => .ok s

/-- Whether an option is given. -/
def has (s : ArgumentState) (name : String) : Bool :=
  s.given.any fun g => name ∈ g.1.names

/-- All values given to an option, in order. -/
def values (s : ArgumentState) (name : String) : List String :=
  s.given.filterMap fun g => if name ∈ g.1.names then g.2 else none

/-- The last value given to an option. -/
def value? (s : ArgumentState) (name : String) : Option String :=
  (s.values name).getLast?

/-- The last value given to an option, as a number. -/
def integer? (s : ArgumentState) (name : String) : Option Int :=
  (s.value? name).bind fun value => (Number.readInteger value).toOption

end ArgumentState

/-- Look at a value given to an option. -/
def OptionKind.check (names : List String) (value : String) : OptionKind → Except UsageError Unit
  | .flag => .ok ()
  | .text => .ok ()
  | .integer least =>
    match Number.readInteger value with
    | .error _ =>
      let kind := if least.isSome then "integer range" else "integer"
      .error (.invalidValue names (Text.quoted value ++ " is not a valid " ++ kind ++ "."))
    | .ok n =>
      match least with
      | some m =>
        if n < m then
          .error (.invalidValue names
            (toString n ++ " is not in the range x>=" ++ toString m ++ "."))
        else .ok ()
      | none => .ok ()
  | .choice allowed =>
    if value ∈ allowed then .ok ()
    else
      .error (.invalidValue names (Text.quoted value ++ " is not one of " ++
        ", ".intercalate (allowed.map Text.quoted) ++ "."))

namespace ArgumentState

/-- The options that are given, each once, in the order in which they first come. -/
def givenOnce (s : ArgumentState) : List OptionSpec :=
  s.given.foldl (fun specs g => if g.1 ∈ specs then specs else specs ++ [g.1]) []

/-- Look at the value that counts of every option that is given. -/
def check (s : ArgumentState) : Except UsageError Unit :=
  s.givenOnce.forM fun o =>
    match s.value? (o.names.headD "") with
    | some value => o.kind.check o.names value
    | none => .ok ()

end ArgumentState

end DocGraph
