import DocGraph.Number.Scientific
import DocGraph.Settings
import DocGraph.Text.Blank

/-!
# Option fields

Options are given by name, as values that are read leniently: a text may stand for a number, and
a number for a switch. What cannot be read is an issue with its place. All issues of a set of
options are found at once, in the order of the fields. A field that is not given falls back on
a setting or on a fixed value, neither of which is checked.
-/

set_option autoImplicit false

namespace DocGraph

/-- What is wrong with an option. -/
inductive IssueKind where
  | notAnInteger
  | malformedInteger
  /-- A text has too many digits, or a number with a point is too large to be exact. -/
  | oversizedInteger
  | fractional
  | notFinite
  | notASwitch
  | malformedSwitch
  | notANumber
  | malformedNumber
  | notAList
  | notAText
  | belowMinimum
  | unknownOption
  | notOptions
  deriving DecidableEq, Repr

/-- The code of what is wrong. -/
def IssueKind.code : IssueKind → String
  | .notAnInteger => "int_type"
  | .malformedInteger => "int_parsing"
  | .oversizedInteger => "int_parsing_size"
  | .fractional => "int_from_float"
  | .notFinite => "finite_number"
  | .notASwitch => "bool_type"
  | .malformedSwitch => "bool_parsing"
  | .notANumber => "float_type"
  | .malformedNumber => "float_parsing"
  | .notAList => "list_type"
  | .notAText => "string_type"
  | .belowMinimum => "greater_than_equal"
  | .unknownOption => "extra_forbidden"
  | .notOptions => "model_type"

/-- A step towards the place of an issue. -/
inductive PlaceStep where
  | field (name : String)
  | index (i : Nat)
  deriving DecidableEq, Repr

/-- Something wrong with the option at a place. -/
structure OptionIssue where
  place : List PlaceStep
  kind : IssueKind
  deriving DecidableEq, Repr

/-- A result, or all the issues that stand in its way. -/
abbrev Checked (α : Type) := Except (List OptionIssue) α

/-- Apply a function, keeping the issues of both sides. -/
def Checked.ap {α β : Type} (f : Checked (α → β)) (x : Checked α) : Checked β :=
  match f, x with
  | .ok f, .ok x => .ok (f x)
  | .ok _, .error issues => .error issues
  | .error issues, .ok _ => .error issues
  | .error issues, .error more => .error (issues ++ more)

/-- An issue with the value itself. -/
def issueHere {α : Type} (kind : IssueKind) : Checked α :=
  .error [⟨[], kind⟩]

/-- Put the issues of a value one step further down. -/
def Checked.below {α : Type} (step : PlaceStep) (x : Checked α) : Checked α :=
  x.mapError fun issues => issues.map fun issue => ⟨step :: issue.place, issue.kind⟩

namespace OptionField

/-- Whether a text starts with a number of more characters than are read. A number starts with
a digit above zero, perhaps behind a minus, which counts. -/
def startsOversized (s : List Char) : Bool :=
  let sign := s.takeWhile (· = '-')
  let digits := (s.drop sign.length).takeWhile Char.isDigit
  sign.length ≤ 1 && digits.head?.any (· ≠ '0') &&
    Number.digitLimit < sign.length + digits.length

/-- What follows zeros and underscores at the front of a number, the last of which is given. It
is kept if nothing or a point follows. -/
def behindZeros (last : Char) : List Char → Option (List Char)
  | [] => some [last]
  | c :: rest =>
    if c = '0' || c = '_' then behindZeros c rest
    else if c = '.' then some (last :: c :: rest)
    else if c.isDigit then some (c :: rest)
    else none

/-- A number without zeros at its front; nothing if there is no digit at its front. -/
def withoutLeadingZeros : List Char → Option (List Char)
  | [] => none
  | c :: rest =>
    if c = '0' then behindZeros c rest else if c.isDigit then some (c :: rest) else none

/-- A number without a point and at least one zero at its end. -/
def withoutZeroPlaces (s : List Char) : List Char :=
  match Text.breakOn ['.'] s with
  | some (whole, places) =>
    if !places.isEmpty && places.all (· = '0') then whole else s
  | none => s

/-- A number without its underscores, if they only stand one by one between other characters. -/
def withoutUnderscores (s : List Char) : Option (List Char) :=
  if Number.areUnderscoresInside s then some (s.filter (· ≠ '_')) else none

/-- Read so many plain digits at most. A zero only stands in front on its own. -/
def plainNatural? (limit : Nat) (s : List Char) : Option Nat :=
  if limit < s.length || (s.head? = some '0' && s.length ≠ 1) || s.isEmpty then none
  else Number.digitsValue? s

/-- Read a number without a sign, of so many digits at most that count. -/
def naturalText? (limit : Nat) (s : List Char) : Option Nat := do
  plainNatural? limit (← withoutUnderscores (withoutZeroPlaces (← withoutLeadingZeros s)))

/-- Read an integer option from text. -/
def integerText? (text : String) : Option Int :=
  match Text.trimWhiteSpace text.toList with
  | '+' :: rest => (naturalText? Number.digitLimit rest).map (Int.ofNat ·)
  | '-' :: rest => (naturalText? (Number.digitLimit - 1) rest).map fun n => -(n : Int)
  | s => (naturalText? Number.digitLimit s).map (Int.ofNat ·)

/-- Numbers with a point stand for integers only if they are smaller than this. -/
def exactBound : Nat := 0x8000000000000000

/-- The integer that a rational stands for. -/
def integerOf? (x : Rat) : Option Int :=
  if x.den = 1 && x.num.natAbs < exactBound then some x.num else none

/-- Read an integer. -/
def integer : Value → Checked Int
  | .integer n => .ok n
  | .switch on => .ok (if on then 1 else 0)
  | .decimal x =>
    match x.value? with
    | none => issueHere .notFinite
    | some r =>
      match integerOf? r with
      | some n => .ok n
      | none => issueHere (if r.den = 1 then .oversizedInteger else .fractional)
  | .text s =>
    match integerText? s with
    | some n => .ok n
    | none =>
      issueHere (if startsOversized s.toList then .oversizedInteger else .malformedInteger)
  | _ => issueHere .notAnInteger

/-- Read an integer that is not negative. -/
def count (value : Value) : Checked Int :=
  match integer value with
  | .ok n => if n < 0 then issueHere .belowMinimum else .ok n
  | .error issues => .error issues

/-- Read a number as a switch. -/
def switchNumber (n : Int) : Checked Bool :=
  if n = 0 then .ok false
  else if n = 1 then .ok true
  else if -(exactBound : Int) ≤ n && n < exactBound then issueHere .malformedSwitch
  else issueHere .notASwitch

/-- Read a switch. -/
def switch : Value → Checked Bool
  | .switch on => .ok on
  | .integer n => switchNumber n
  | .decimal x =>
    match x.value?.bind integerOf? with
    | some n => switchNumber n
    | none => issueHere .notASwitch
  | .text s =>
    let word := Text.lower s
    if word ∈ ["1", "on", "t", "true", "y", "yes"] then .ok true
    else if word ∈ ["0", "off", "f", "false", "n", "no"] then .ok false
    else issueHere .malformedSwitch
  | _ => issueHere .notASwitch

/-- Read a number of double precision from text: with white space around it, or with
underscores between its characters. -/
def doubleText? (text : String) : Option Number.Extended :=
  let s := text.toList
  Number.readDouble (Text.trimWhiteSpace s) <|> (withoutUnderscores s).bind Number.readDouble

/-- Read a number of double precision. -/
def double : Value → Checked Number.Extended
  | .integer n =>
    match Number.Extended.ofRat n with
    | .finite x => .ok (.finite x)
    | _ => issueHere .notANumber
  | .switch on => .ok (.finite (if on then 1 else 0))
  | .decimal x => .ok x
  | .text s =>
    match doubleText? s with
    | some x => .ok x
    | none => issueHere .malformedNumber
  | _ => issueHere .notANumber

/-- Read a time span in seconds, which may be left open. -/
def seconds : Value → Checked (Option Number.Extended)
  | .nothing => .ok none
  | value =>
    match double value with
    | .ok x => if x.isNonnegative then .ok (some x) else issueHere .belowMinimum
    | .error issues => .error issues

/-- Read texts, the first of which is in the given place of a list. -/
def textsFrom (i : Nat) : List Value → Checked (List String)
  | [] => .ok []
  | .text s :: rest => Checked.ap (.ok (s :: ·)) (textsFrom (i + 1) rest)
  | _ :: rest =>
    Checked.ap ((issueHere .notAText : Checked (List String → List String)).below (.index i))
      (textsFrom (i + 1) rest)

/-- Read a list of texts. -/
def texts : Value → Checked (List String)
  | .list items => textsFrom 0 items
  | _ => issueHere .notAList

/-- The field of a name, or what it falls back on. -/
def read {α : Type} (fields : List (String × Value)) (name : String)
    (fallback : Except SettingError α) (reader : Value → Checked α) :
    Except SettingError (Checked α) :=
  match fields.lookup name with
  | some value => .ok ((reader value).below (.field name))
  | none => fallback.map .ok

/-- An issue for every field that is not known. -/
def noOthers {α : Type} (fields : List (String × Value)) (known : List String) :
    Checked (α → α) :=
  match fields.filter fun entry => entry.1 ∉ known with
  | [] => .ok id
  | others => .error (others.map fun entry => ⟨[.field entry.1], .unknownOption⟩)

end OptionField

/-- Why there are no options. -/
inductive OptionsError where
  | setting (error : SettingError)
  | issues (found : List OptionIssue)
  deriving DecidableEq, Repr

end DocGraph
