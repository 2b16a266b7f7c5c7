/-
Moments.

A moment is a number of microseconds since the start of 1970.  It is split into a day of
the calendar and a time of that day by division toward the floor, so moments before 1970
need no rule of their own.

Clocks tell a moment in seconds, as a fractional number of double precision.  What is
written of a moment is what the clock tells, so far from 1970 the last digits of the
microseconds are those of the nearest number that a clock can tell.  Not every moment has a
place in the calendar: `CalendarError`.
-/
import Storefront.Number.Binary64

namespace Storefront

open Number

/-- Microseconds since the start of 1970. -/
structure Timestamp where
  micros : Int
  deriving DecidableEq, Repr

/-- A day of the calendar. -/
structure Date where
  year : Int
  month : Int
  day : Int
  deriving DecidableEq, Repr

/-- Why a moment has no place in the calendar. -/
inductive CalendarError where
  /-- The year has not one to four digits. -/
  | year (n : Int)
  /-- The year does not fit into 32 bits. -/
  | yearSize
  /-- The seconds do not fit into 64 bits. -/
  | secondsSize
  deriving DecidableEq, Repr

/-- What is said of a moment without a place in the calendar. -/
def CalendarError.message : CalendarError → String
  | year n => "year " ++ toString n ++ " is out of range"
  | yearSize => "[Errno 75] Value too large for defined data type"
  | secondsSize => "timestamp out of range for platform time_t"

/-- The day that comes the given number of days after the first of January 1970.  Years
are counted from March, which puts the leap day last, and in eras of 400 years, which all
have the same number of days. -/
def Date.ofDays (days : Int) : Date :=
  let shifted := days + 719468
  let era := shifted.fdiv 146097
  let dayOfEra := shifted.fmod 146097
  let yearOfEra :=
    (dayOfEra - dayOfEra / 1460 + dayOfEra / 36524 - dayOfEra / 146096) / 365
  let dayOfYear := dayOfEra - (365 * yearOfEra + yearOfEra / 4 - yearOfEra / 100)
  let monthFromMarch := (5 * dayOfYear + 2) / 153
  let month := if monthFromMarch < 10 then monthFromMarch + 3 else monthFromMarch - 9
  { year := yearOfEra + era * 400 + (if month ≤ 2 then 1 else 0)
    month := month
    day := dayOfYear - (153 * monthFromMarch + 2) / 5 + 1 }

/-- The day of a second; years are counted from 1900 in 32 bits. -/
def Date.ofSeconds (seconds : Int) : Except CalendarError Date :=
  if seconds < -0x8000000000000000 ∨ 0x8000000000000000 ≤ seconds then .error .secondsSize
  else
    let date := ofDays (seconds.fdiv 86400)
    if date.year - 1900 < -0x80000000 ∨ 0x80000000 ≤ date.year - 1900 then .error .yearSize
    else .ok date

/-- Whether the year of a day has one to four digits. -/
def Date.isCommon (d : Date) : Bool := 1 ≤ d.year && d.year ≤ 9999

namespace Timestamp

/-- The moment so many seconds after the start of 1970. -/
def ofSeconds (seconds : Int) : Timestamp := ⟨seconds * 1000000⟩

/-- The seconds that a clock tells: the microseconds and then their quotient are rounded to
double precision. -/
def told (t : Timestamp) : Binary64 := (Binary64.ofInt t.micros).divNat 1000000

/-- The whole seconds that a clock tells. -/
def seconds (t : Timestamp) : Except CalendarError Int :=
  (t.told.floor?).elim (.error .secondsSize) .ok

/-- What a clock tells, to the nearest microsecond. -/
def rounded (t : Timestamp) : Except CalendarError Timestamp :=
  (t.told.nearest? 1000000).elim (.error .secondsSize) fun n => .ok ⟨n⟩

/-- The milliseconds after the whole seconds. -/
def milliseconds (t : Timestamp) : Int := (t.micros.fdiv 1000).fmod 1000

/-- A number with zeros in front of it, up to a width. -/
def padded (width : Nat) (n : Int) : String :=
  let ds := (toString n).toList
  String.ofList (List.replicate (width - ds.length) '0' ++ ds)

/-- The time of day of a second, with colons. -/
def clockText (seconds : Int) : String :=
  let s := seconds.fmod 86400
  padded 2 (s / 3600) ++ ":" ++ padded 2 (s / 60 % 60) ++ ":" ++ padded 2 (s % 60)

/-- The month and the day, each behind a hyphen. -/
def monthText (d : Date) : String :=
  "-" ++ padded 2 d.month ++ "-" ++ padded 2 d.day

/-- The moment in the ISO form: microseconds only when there are any, and a zero offset. -/
def isoText (t : Timestamp) : Except CalendarError String := do
  let micros := (← t.rounded).micros
  let seconds := micros.fdiv 1000000
  let fraction := micros.fmod 1000000
  let date ← Date.ofSeconds seconds
  if date.isCommon then
    return padded 4 date.year ++ monthText date ++ "T" ++ clockText seconds ++
      (if fraction = 0 then "" else "." ++ padded 6 fraction) ++ "+00:00"
  else throw (.year date.year)

/-- The moment as plain log lines begin: with the year as it is, a blank, and the
milliseconds after a comma. -/
def plainText (t : Timestamp) : Except CalendarError String := do
  let seconds ← t.seconds
  let date ← Date.ofSeconds seconds
  return toString date.year ++ monthText date ++ " " ++ clockText seconds ++ "," ++
    padded 3 t.milliseconds

end Timestamp

end Storefront
