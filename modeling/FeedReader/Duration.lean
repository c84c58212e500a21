import FeedReader.Text.Numeral

/-!
# Durations

A duration is a number of seconds and a number of nanoseconds below one second. The seconds
fit 64 bits, and **a product that does not fit is the longest duration**, not an error: a delay
that long is for ever in any case.
-/

namespace FeedReader

/-- A span of time. -/
structure Duration where
  seconds : Nat
  /-- What goes beyond the seconds, less than one second. -/
  nanoseconds : Nat := 0
deriving DecidableEq, Repr

namespace Duration

def nanosecondsPerSecond : Nat := 1000000000

/-- The number of seconds that no duration reaches. -/
def limit : Nat := word64

/-- The longest duration. -/
def longest : Duration := { seconds := limit - 1, nanoseconds := nanosecondsPerSecond - 1 }

def ofMilliseconds (n : Nat) : Duration :=
  { seconds := n / 1000, nanoseconds := n % 1000 * 1000000 }

/-- The whole duration in nanoseconds. -/
def total (d : Duration) : Nat := d.seconds * nanosecondsPerSecond + d.nanoseconds

/-- The duration in milliseconds, without what goes beyond. -/
def milliseconds (d : Duration) : Nat := d.seconds * 1000 + d.nanoseconds / 1000000

/-- Whether the nanoseconds make up less than a second and the seconds fit. -/
def isNormal (d : Duration) : Bool :=
  d.seconds < limit && d.nanoseconds < nanosecondsPerSecond

/-- A multiple of a duration, or the longest duration if that is too long. -/
def times (d : Duration) (n : Nat) : Duration :=
  let nanoseconds := d.nanoseconds * n
  let seconds := d.seconds * n + nanoseconds / nanosecondsPerSecond
  if seconds < limit then { seconds, nanoseconds := nanoseconds % nanosecondsPerSecond }
  else longest

/-! ### Text -/

/-- The digits of a fraction below one with the given number of places, without trailing zeros
and with the point before them. Nothing for zero. -/
def fractionText (places n : Nat) : String :=
  let digits := Nat.toDigits 10 n
  let padded := List.replicate (places - digits.length) '0' ++ digits
  let shown := (padded.reverse.dropWhile (· == '0')).reverse
  if shown.isEmpty then "" else "." ++ String.ofList shown

/-- The duration in the largest unit of which it has one. -/
def text (d : Duration) : String :=
  let n := d.nanoseconds
  if 0 < d.seconds then toString d.seconds ++ fractionText 9 n ++ "s"
  else if 1000000 ≤ n then toString (n / 1000000) ++ fractionText 6 (n % 1000000) ++ "ms"
  else if 1000 ≤ n then toString (n / 1000) ++ fractionText 3 (n % 1000) ++ "µs"
  else toString n ++ "ns"

end Duration

end FeedReader
