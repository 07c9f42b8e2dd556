import DocGraph.Scan.Options

/-!
# Build options

How a graph is built: the options of the scan that it starts with, and what is done besides.
-/

set_option autoImplicit false

namespace DocGraph

/-- The options of a build. -/
structure BuildOptions where
  scan : ScanOptions := {}
  /-- Whether errors of the graph fail the build. -/
  validate : Bool := false
  reportProgress : Bool := false
  deriving DecidableEq, Repr

namespace BuildOptions

/-- The names of the fields, in the order in which they are read. -/
def fieldNames : List String :=
  ["scan_options", "validate_graph", "report_progress"]

/-- Read the options of the scan from a table. -/
def checkScan (sources : SettingSources) (value : Value) :
    Except SettingError (Checked ScanOptions) :=
  match value with
  | .table fields =>
    (ScanOptions.check sources fields).map fun options => options.below (.field "scan_options")
  | _ => .ok ((issueHere .notOptions : Checked ScanOptions).below (.field "scan_options"))

/-- Read options from fields; all issues are found, unless a setting that is needed fails. -/
def check (sources : SettingSources) (fields : List (String × Value)) :
    Except SettingError (Checked BuildOptions) := do
  let scan ← checkScan sources ((fields.lookup "scan_options").getD (.table []))
  let validate ← OptionField.read fields "validate_graph" (.ok false) OptionField.switch
  let reportProgress ← OptionField.read fields "report_progress" (.ok false) OptionField.switch
  let made := ((Checked.ap (.ok BuildOptions.mk) scan).ap validate).ap reportProgress
  return Checked.ap (Checked.ap (.ok fun options keep => keep options) made)
    (OptionField.noOthers fields fieldNames)

/-- Read options from fields. -/
def read (sources : SettingSources) (fields : List (String × Value)) :
    Except OptionsError BuildOptions :=
  match check sources fields with
  | .error e => .error (.setting e)
  | .ok (.error issues) => .error (.issues issues)
  | .ok (.ok options) => .ok options

end BuildOptions

end DocGraph
