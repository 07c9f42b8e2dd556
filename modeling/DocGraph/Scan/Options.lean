import DocGraph.OptionField

/-!
# Scan options

What a scan includes, how it runs, and when it gives up. The size limit, the ignore files and the
number of workers fall back on the settings.
-/

set_option autoImplicit false

namespace DocGraph

/-- The options of a scan. -/
structure ScanOptions where
  /-- Globs, one of which a file has to match, unless there are none. -/
  includePatterns : List String := []
  /-- Further ignore rules. -/
  excludePatterns : List String := []
  /-- The size in bytes up to which files are included; zero sets no limit. -/
  maxFileSize : Int := 1048576
  /-- Whether links are followed. -/
  followLinks : Bool := false
  /-- Names of files in the root of the scan that hold ignore rules. -/
  ignoreFiles : List String := [".gitignore", ".graphfsignore"]
  /-- Whether the standard ignore rules apply. -/
  useDefaults : Bool := true
  /-- Whether workers look at the files while the walk goes on. -/
  concurrent : Bool := true
  /-- The number of workers; zero stands for as many as there are processors. -/
  workers : Int := 0
  /-- Whether the first failure ends the scan. -/
  strict : Bool := false
  /-- How many failures end the scan; zero sets no limit. -/
  maxErrors : Int := 0
  timeout : Option Number.Extended := none
  fileTimeout : Option Number.Extended := none
  deriving DecidableEq, Repr

namespace ScanOptions

/-- The names of the fields, in the order in which they are read. -/
def fieldNames : List String :=
  ["include_patterns", "exclude_patterns", "max_file_size", "follow_symlinks", "ignore_files",
    "use_defaults", "concurrent", "workers", "strict", "max_errors", "timeout", "file_timeout"]

/-- The names of ignore files that a setting gives. -/
def settingNames (values : List Value) : List String :=
  values.filterMap fun value =>
    match value with
    | .text s => some s
    | _ => none

/-- Read options from fields; all issues are found, unless a setting that is needed fails. -/
def check (sources : SettingSources) (fields : List (String × Value)) :
    Except SettingError (Checked ScanOptions) := do
  let field {α : Type} (name : String) (fallback : Except SettingError α)
      (reader : Value → Checked α) := OptionField.read fields name fallback reader
  let includePatterns ← field "include_patterns" (.ok []) OptionField.texts
  let excludePatterns ← field "exclude_patterns" (.ok []) OptionField.texts
  let maxFileSize ← field "max_file_size" sources.maxFileSize OptionField.count
  let followLinks ← field "follow_symlinks" (.ok false) OptionField.switch
  let ignoreFiles ← field "ignore_files" (sources.ignoreFiles.map settingNames) OptionField.texts
  let useDefaults ← field "use_defaults" (.ok true) OptionField.switch
  let concurrent ← field "concurrent" sources.concurrent OptionField.switch
  let workers ← field "workers" sources.workers OptionField.count
  let strict ← field "strict" (.ok false) OptionField.switch
  let maxErrors ← field "max_errors" (.ok 0) OptionField.count
  let timeout ← field "timeout" (.ok none) OptionField.seconds
  let fileTimeout ← field "file_timeout" (.ok none) OptionField.seconds
  let made : Checked ScanOptions :=
    ((((((((((((Checked.ap (.ok ScanOptions.mk) includePatterns).ap excludePatterns).ap
      maxFileSize).ap followLinks).ap ignoreFiles).ap useDefaults).ap concurrent).ap workers).ap
      strict).ap maxErrors).ap timeout).ap fileTimeout)
  return Checked.ap (Checked.ap (.ok fun options keep => keep options) made)
    (OptionField.noOthers fields fieldNames)

/-- Read options from fields. -/
def read (sources : SettingSources) (fields : List (String × Value)) :
    Except OptionsError ScanOptions :=
  match check sources fields with
  | .error e => .error (.setting e)
  | .ok (.error issues) => .error (.issues issues)
  | .ok (.ok options) => .ok options

/-- Options as the settings give them. -/
def ofSettings (sources : SettingSources) : Except OptionsError ScanOptions :=
  read sources []

end ScanOptions

end DocGraph
