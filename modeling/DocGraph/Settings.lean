import DocGraph.Number.Integer
import DocGraph.Text.LowerCase
import DocGraph.Text.Occurrence
import DocGraph.Value

/-!
# Settings

Four settings that scans fall back on. Each is taken from the environment, else from the table
of the project file, else it has a fixed value. An empty variable of the environment counts as
missing, as does an entry of the table without a value. The project file that counts is the
nearest one; if it cannot be read, there is no table.
-/

set_option autoImplicit false

namespace DocGraph

/-- The variables of the environment. -/
abbrev Environment := List (String × String)

/-- The value of a variable, unless it is empty. -/
def Environment.get? (env : Environment) (name : String) : Option String :=
  (List.lookup name env).filter fun value => !value.isEmpty

/-- Why what should be a whole number is not read as one. -/
inductive NumberError where
  | malformed (text : String)
  /-- A text has more digits than are read, namely so many. -/
  | tooLong (digits : Nat)
  | infinite
  | undefined
  deriving DecidableEq, Repr

/-- How much of a quoted text a message shows. -/
def shownWidth : Nat := 200

/-- The words for what is not read as a whole number. -/
def NumberError.message : NumberError → String
  | .malformed text =>
    "invalid literal for int() with base 10: " ++
      String.ofList ((Text.quoted text).toList.take shownWidth)
  | .tooLong digits =>
    "Exceeds the limit (" ++ toString Number.digitLimit ++
      " digits) for integer string conversion: value has " ++ toString digits ++
      " digits; use sys.set_int_max_str_digits() to increase the limit"
  | .infinite => "cannot convert float infinity to integer"
  | .undefined => "cannot convert float NaN to integer"

/-- Why a setting has no value. -/
inductive SettingError where
  | number (error : NumberError)
  | shape (error : ShapeError)
  deriving DecidableEq, Repr

/-- A project file. -/
inductive ProjectFile where
  /-- It is there but cannot be read, or does not follow its format. -/
  | unreadable
  | document (content : Value)

/-- What settings are taken from: the environment, and the table of the project file, in whose
place there may be some other value. -/
structure SettingSources where
  env : Environment := []
  table : Except ShapeError Value := .ok (.table [])

/-- The table for this program in a project file. -/
def ProjectFile.table : ProjectFile → Except ShapeError Value
  | .unreadable => .ok (.table [])
  | .document content => do
    let tools := ((← content.entries).lookup "tool").getD (.table [])
    return ((← tools.entries).lookup "graphfs").getD (.table [])

/-- Of project files in directories one above the other, given with how many levels up they
are, the nearest. -/
def nearestFile (files : List (Nat × ProjectFile)) : Option ProjectFile :=
  (files.foldl (fun best file =>
    match best with
    | some (level, _) => if file.1 ≤ level then some file else best
    | none => some file) none).map Prod.snd

/-- The table of the nearest project file. Without any, it is empty. -/
def nearestTable (files : List (Nat × ProjectFile)) : Except ShapeError Value :=
  match nearestFile files with
  | some file => file.table
  | none => .ok (.table [])

/-- Read a text as a whole number. -/
def readWhole (text : String) : Except NumberError Int :=
  match Number.readInteger text with
  | .ok n => .ok n
  | .error .malformed => .error (.malformed text)
  | .error (.tooLong digits) => .error (.tooLong digits)

/-- Read the text of a setting as a whole number. -/
def wholeNumber (text : String) : Except SettingError Int :=
  (readWhole text).mapError .number

/-- The whole number in front of the point of a finite number. -/
def wholePart : Number.Extended → Except NumberError Int
  | .finite x => .ok (if x < 0 then x.ceil else x.floor)
  | .negativeZero => .ok 0
  | .infinite _ => .error .infinite
  | .undefined => .error .undefined

/-- Read a value as a whole number. What stands behind a decimal point is cut off. -/
def numberOf : Value → Except SettingError Int
  | .text s => wholeNumber s
  | .integer n => .ok n
  | .switch on => .ok (if on then 1 else 0)
  | .decimal x => (wholePart x).mapError .number
  | _ => .error (.shape .notANumber)

/-- Whether a text switches something on. -/
def isAffirmative (text : String) : Bool :=
  Text.lower text ∈ ["true", "1", "yes"]

/-- Read a value as a switch. -/
def switchOf : Value → Except SettingError Bool
  | .switch on => .ok on
  | .text s => .ok (isAffirmative s)
  | _ => .error (.shape .notASwitch)

/-- The names in a text with commas between them. -/
def namesOf (text : String) : List String :=
  ((Text.splitOn ',' text.toList).map Text.trim).filterMap fun name =>
    if name.isEmpty then none else some (String.ofList name)

/-- The variables of the environment that settings are taken from. -/
def settingVariables : List String :=
  ["GRAPHFS_MAX_FILE_SIZE", "GRAPHFS_WORKERS", "GRAPHFS_IGNORE_FILES", "GRAPHFS_CONCURRENT"]

namespace SettingSources

/-- A setting: what the environment says about it, else what the table says, else a fixed
value. -/
def setting {α : Type} (s : SettingSources) (name key : String)
    (ofText : String → Except SettingError α) (ofValue : Value → Except SettingError α)
    (fallback : α) : Except SettingError α :=
  match s.env.get? name with
  | some text => ofText text
  | none =>
    match s.table.bind Value.entries with
    | .error e => .error (.shape e)
    | .ok entries =>
      match entries.lookup key with
      | none => .ok fallback
      | some .nothing => .ok fallback
      | some value => ofValue value

/-- The size in bytes up to which files are included. -/
def maxFileSize (s : SettingSources) : Except SettingError Int :=
  s.setting "GRAPHFS_MAX_FILE_SIZE" "max-file-size" wholeNumber numberOf 1048576

/-- How many workers a scan has; zero stands for as many as there are processors. -/
def workers (s : SettingSources) : Except SettingError Int :=
  s.setting "GRAPHFS_WORKERS" "workers" wholeNumber numberOf 0

/-- The names of the ignore files. -/
def ignoreFiles (s : SettingSources) : Except SettingError (List Value) :=
  s.setting "GRAPHFS_IGNORE_FILES" "ignore-files"
    (fun text => .ok ((namesOf text).map .text))
    (fun value => (value.elements).mapError .shape)
    [.text ".gitignore", .text ".graphfsignore"]

/-- Whether scans use workers. -/
def concurrent (s : SettingSources) : Except SettingError Bool :=
  s.setting "GRAPHFS_CONCURRENT" "concurrent" (fun text => .ok (isAffirmative text)) switchOf true

end SettingSources

end DocGraph
