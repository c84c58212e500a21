/-!
# Dates

The date of a moment, in the Gregorian calendar and in universal time. The calendar repeats
itself every 400 years, which are an **era** of 146097 days. An era, and each year in it, is taken
to begin with March, so that the day that is sometimes left out comes last.
-/

namespace FeedReader

/-- A day of the Gregorian calendar. -/
structure Date where
  /-- The year before year 1 is year 0. -/
  year : Int
  /-- From 1 for January. -/
  month : Nat
  /-- From 1. -/
  day : Nat
deriving DecidableEq, Repr

namespace Date

def daysPerEra : Nat := 146097

/-- The days from the beginning of March of year 0 to the beginning of 1970. -/
def epoch : Nat := 719468

/-- The year in an era, both beginning with March, in which the given day of the era lies.
Every fourth year is longer by a day, except every hundredth, and the last year of an era. -/
def yearOfEra (day : Nat) : Nat :=
  (day - day / 1460 + day / 36524 - day / 146096) / 365

/-- The days of an era before the given year of it. -/
def daysBefore (year : Nat) : Nat := 365 * year + year / 4 - year / 100

/-- The date that is the given number of days after the first day of 1970. -/
def ofDays (days : Int) : Date :=
  let shifted := days + epoch
  let dayOfEra := (shifted % daysPerEra).toNat
  let year := yearOfEra dayOfEra
  let dayOfYear := dayOfEra - daysBefore year
  -- from March on, five months have 153 days
  let month := (5 * dayOfYear + 2) / 153
  { year := shifted / daysPerEra * 400 + year + (if month < 10 then 0 else 1)
    month := if month < 10 then month + 3 else month - 9
    day := dayOfYear - (153 * month + 2) / 5 + 1 }

/-- The date of the moment that is the given number of seconds after the beginning of 1970. -/
def ofSeconds (seconds : Int) : Date := ofDays (seconds / 86400)

/-- The first and the last year whose dates can be written. -/
def firstYear : Int := -262143

def lastYear : Int := 262142

/-- A number with zeros before it, up to the given number of digits. -/
def padded (places n : Nat) : String :=
  let digits := Nat.toDigits 10 n
  String.ofList (List.replicate (places - digits.length) '0' ++ digits)

/-- A year in four digits or more. A year that does not have four digits has a sign. -/
def yearText (year : Int) : String :=
  if year < 0 then "-" ++ padded 4 year.natAbs
  else if 10000 ≤ year then "+" ++ padded 4 year.natAbs
  else padded 4 year.natAbs

/-- Year, month and day. -/
def text (d : Date) : String :=
  yearText d.year ++ "-" ++ padded 2 d.month ++ "-" ++ padded 2 d.day

/-- The date of a moment in writing, and dashes for a moment too far away. -/
def textOfSeconds (seconds : Int) : String :=
  let date := ofSeconds seconds
  if firstYear ≤ date.year ∧ date.year ≤ lastYear then date.text else "----------"

end Date

end FeedReader
