/-!
Instants with an offset from universal time, and the calendar of their local dates.
-/

namespace ConfinedHttp

/-- An instant: seconds since the start of 1970 in universal time, nanoseconds, and by how many
seconds local time is ahead. -/
structure Instant where
  seconds : Int
  nanos : Nat
  offset : Int
deriving DecidableEq, Repr

/-- A date of the calendar that repeats every four hundred years. -/
structure Date where
  year : Int
  month : Nat
  day : Nat
deriving DecidableEq, Repr

namespace Date

/-- This function finds the date a number of days after the first of January 1970.  Years are
counted from March, so that the day added in leap years comes last. -/
def ofDays (days : Int) : Date :=
  let shifted := days + 719468
  let era := shifted.fdiv 146097
  let inEra := (shifted.fmod 146097).toNat
  let yearOfEra := (inEra - inEra / 1460 + inEra / 36524 - inEra / 146096) / 365
  let dayOfYear := inEra - (365 * yearOfEra + yearOfEra / 4 - yearOfEra / 100)
  let monthFromMarch := (5 * dayOfYear + 2) / 153
  let month := if monthFromMarch < 10 then monthFromMarch + 3 else monthFromMarch - 9
  { year := (yearOfEra : Int) + era * 400 + (if month ≤ 2 then 1 else 0)
    month
    day := dayOfYear - (153 * monthFromMarch + 2) / 5 + 1 }

end Date

namespace Instant

/-- This function gives the seconds that a local clock and calendar have counted. -/
def localSeconds (instant : Instant) : Int := instant.seconds + instant.offset

def date (instant : Instant) : Date := Date.ofDays (instant.localSeconds.fdiv 86400)

/-- This function gives the seconds since local midnight. -/
def secondOfDay (instant : Instant) : Nat := (instant.localSeconds.fmod 86400).toNat

/-- The first and the last day whose year has at most four digits. -/
def firstDay : Int := -4371587

def lastDay : Int := 2932896

/-- This function tests whether the local date can be written with a year of four digits. -/
def isRepresentable (instant : Instant) : Bool :=
  let day := instant.localSeconds.fdiv 86400
  firstDay ≤ day && day ≤ lastDay

/-- This function moves an instant by a number of seconds.  There is no result beyond the years
that can be written. -/
def add? (instant : Instant) (seconds : Int) : Option Instant :=
  let moved := { instant with seconds := instant.seconds + seconds }
  if moved.isRepresentable then some moved else none

/-- This function writes the local date and time without leading zeros. -/
def localText (instant : Instant) : String :=
  let date := instant.date
  let second := instant.secondOfDay
  toString date.year ++ "-" ++ toString date.month ++ "-" ++ toString date.day ++ " " ++
    toString (second / 3600) ++ ":" ++ toString (second / 60 % 60) ++ ":" ++ toString (second % 60)

end Instant

end ConfinedHttp
