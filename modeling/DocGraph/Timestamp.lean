import DocGraph.Number.Decimal

/-!
# Points in time

When a file was last modified, from the nanoseconds that a file system keeps to the date that is
shown. On the way the time is held as seconds in double precision and rounded to microseconds,
which is how far its shown form goes. Dates are those of the Gregorian calendar from the year 1
to the year 9999.
-/

set_option autoImplicit false

namespace DocGraph

/-- Nanoseconds in seconds, in double precision: the whole seconds plus the product of the
rest and one billionth, each step rounded. -/
def secondsOf (nanoseconds : Int) : Rat :=
  let whole := Number.nearest (nanoseconds / 1000000000 : Int)
  let rest := Number.nearest (Number.nearest (1 / 1000000000) * (nanoseconds % 1000000000 : Int))
  Number.nearest (whole + rest)

/-- Seconds as microseconds. The part behind the point is rounded on its own, a tie to the even
side. -/
def microsecondsOf (seconds : Rat) : Int :=
  let whole := if seconds < 0 then seconds.ceil else seconds.floor
  let part := Number.nearest ((seconds - whole) * 1000000)
  whole * 1000000 + Number.roundEven part

/-- A date of the calendar. -/
structure Date where
  year : Int
  month : Nat
  day : Nat
  deriving DecidableEq, Repr

/-- The date that is a number of days after the first of January 1970. Years are counted from
March on, so that the leap day is the last of its year. -/
def Date.ofDays (days : Int) : Date :=
  let shifted := days + 719468
  let era := shifted / 146097
  let dayOfEra := (shifted % 146097).toNat
  let yearOfEra :=
    (dayOfEra - dayOfEra / 1460 + dayOfEra / 36524 - dayOfEra / 146096) / 365
  let dayOfYear := dayOfEra - (365 * yearOfEra + yearOfEra / 4 - yearOfEra / 100)
  let shiftedMonth := (5 * dayOfYear + 2) / 153
  let day := dayOfYear - (153 * shiftedMonth + 2) / 5 + 1
  let month := if shiftedMonth < 10 then shiftedMonth + 3 else shiftedMonth - 9
  ⟨yearOfEra + era * 400 + (if month ≤ 2 then 1 else 0), month, day⟩

/-- A point in time, in microseconds from the start of 1970. -/
structure Timestamp where
  microseconds : Int
  deriving DecidableEq, Repr

namespace Timestamp

/-- The date of a point in time. -/
def date (t : Timestamp) : Date :=
  Date.ofDays (t.microseconds / 86400000000)

/-- The point in time of a modification, or the year it would fall in if that has no four
digits. -/
def ofNanoseconds (nanoseconds : Int) : Except Int Timestamp :=
  let t : Timestamp := ⟨microsecondsOf (secondsOf nanoseconds)⟩
  if 1 ≤ t.date.year && t.date.year ≤ 9999 then .ok t else .error t.date.year

/-- Date and time of day, with microseconds if there are any. -/
def text (t : Timestamp) : String :=
  let two (n : Nat) := Number.padded 2 (toString n)
  let inDay := (t.microseconds % 86400000000).toNat
  let seconds := inDay / 1000000
  let rest := inDay % 1000000
  Number.padded 4 (toString t.date.year) ++ "-" ++ two t.date.month ++ "-" ++ two t.date.day ++
    "T" ++ two (seconds / 3600) ++ ":" ++ two (seconds / 60 % 60) ++ ":" ++ two (seconds % 60) ++
    (if rest = 0 then "" else "." ++ Number.padded 6 (toString rest)) ++ "+00:00"

end Timestamp

end DocGraph
