import FeedReader.Text.Numeral
import FeedReader.Text.Split
import FeedReader.Toml.Value

/-!
# TOML words as values

A word stands for a truth value, a number, or a date or time. **The forms exclude each other**, so
it does not matter in which order they are tried. Digits may be grouped by underscores, each of
them between two digits.
-/

namespace FeedReader.Toml

/-! ### Numbers -/

/-- The digits without the underscores that group them. -/
def ungrouped? (isDigit : Char → Bool) (cs : List Char) : Option (List Char) :=
  let groups := Text.split (· == '_') cs
  if groups.all fun g => !g.isEmpty && g.all isDigit then some groups.flatten else none

/-- The number that grouped digits stand for. -/
def grouped? (base : Nat) (cs : List Char) : Option Nat := do
  Text.numeral? base (← ungrouped? (fun c => (Text.digit? base c).isSome) cs)

/-- A sign, if there is one, and what stands behind it. -/
def splitSign (cs : List Char) : Bool × List Char :=
  match cs with
  | '-' :: rest => (true, rest)
  | '+' :: rest => (false, rest)
  | _ => (false, cs)

/-- Whether digits begin with a zero that another digit follows. -/
def hasLeadingZero (cs : List Char) : Bool :=
  match cs with
  | '0' :: _ :: _ => true
  | _ => false

/-- An integer: decimal with a sign or without, or in another base without a sign. -/
def integer? (cs : List Char) : Option Int := do
  let n : Int ← match cs with
    | '0' :: 'x' :: digits => (grouped? 16 digits).map Int.ofNat
    | '0' :: 'o' :: digits => (grouped? 8 digits).map Int.ofNat
    | '0' :: 'b' :: digits => (grouped? 2 digits).map Int.ofNat
    | _ =>
      let (isNegative, digits) := splitSign cs
      if hasLeadingZero digits then none
      else (grouped? 10 digits).map fun n => if isNegative then -(n : Int) else (n : Int)
  if isInt64 n then pure n else none

/-- A digit or an underscore. -/
def isGrouped (c : Char) : Bool := c.isDigit || c == '_'

/-- The exponent of a number, from its mark on. Zero if there is none. -/
def exponent? (cs : List Char) : Option Int :=
  match cs with
  | [] => some 0
  | c :: rest =>
    if c = 'e' ∨ c = 'E' then
      let (isNegative, digits) := splitSign rest
      (grouped? 10 digits).map fun n => if isNegative then -(n : Int) else (n : Int)
    else none

/-- From this number on, the nearest number that a machine can represent is infinite. -/
def infiniteFrom : Nat := Nat.pow 2 1024 - Nat.pow 2 970

/-- Whether digits times a power of ten reach the infinite. Far from the limit the number of digits
decides, so that no huge power is computed. -/
def isInfinite (digits : List Char) (exponent : Int) : Bool :=
  let significant := digits.dropWhile (· == '0')
  let size := significant.length + exponent
  if significant.isEmpty ∨ size < 300 then false
  else if 320 < size then true
  else
    let n := (Text.numeral? 10 significant).getD 0
    if 0 ≤ exponent then decide (infiniteFrom ≤ n * Nat.pow 10 exponent.toNat)
    else decide (infiniteFrom * Nat.pow 10 (-exponent).toNat ≤ n)

/-- Whether this is a number with a fraction, an exponent or both. A number without a minus has to
be finite. -/
def isDecimal (cs : List Char) : Bool :=
  let (isNegative, unsigned) := splitSign cs
  let whole := unsigned.takeWhile isGrouped
  let (fraction, behind) := match unsigned.dropWhile isGrouped with
    | '.' :: rest => (some (rest.takeWhile isGrouped), rest.dropWhile isGrouped)
    | rest => (none, rest)
  let parts : Option (List Char × List Char × Int) := do
    let whole ← ungrouped? Char.isDigit whole
    let fraction ← match fraction with
      | some digits => ungrouped? Char.isDigit digits
      | none => if behind.isEmpty then none else some []
    pure (whole, fraction, ← exponent? behind)
  match parts with
  | none => false
  | some (digits, fraction, exponent) =>
    !hasLeadingZero whole &&
      (isNegative || !isInfinite (digits ++ fraction) (exponent - fraction.length))

/-- Whether this is one of the numbers that have names. -/
def isNamedNumber (cs : List Char) : Bool :=
  let (_, name) := splitSign cs
  name == "inf".toList || name == "nan".toList

/-! ### Dates and times -/

/-- A number of the given number of digits, and what stands behind it. -/
def readDigits? (count : Nat) (cs : List Char) : Option (Nat × List Char) :=
  let digits := cs.take count
  if digits.length = count ∧ digits.all Char.isDigit then
    (Text.numeral? 10 digits).map fun n => (n, cs.drop count)
  else none

/-- A character that has to come, and what stands behind it. -/
def readChar? (expected : Char) (cs : List Char) : Option (List Char) :=
  match cs with
  | c :: rest => if c = expected then some rest else none
  | [] => none

def isLeapYear (year : Nat) : Bool := year % 4 == 0 && (year % 100 != 0 || year % 400 == 0)

def daysOfMonth (year month : Nat) : Nat :=
  if month = 2 then if isLeapYear year then 29 else 28
  else if month = 4 ∨ month = 6 ∨ month = 9 ∨ month = 11 then 30
  else 31

/-- Reads a date. -/
def readDate? (cs : List Char) : Option (List Char) := do
  let (year, cs) ← readDigits? 4 cs
  let (month, cs) ← readDigits? 2 (← readChar? '-' cs)
  let (day, cs) ← readDigits? 2 (← readChar? '-' cs)
  if 1 ≤ month ∧ month ≤ 12 ∧ 1 ≤ day ∧ day ≤ daysOfMonth year month then pure cs else none

/-- Reads a fraction of a second, if there is one. -/
def readFraction? (cs : List Char) : Option (List Char) :=
  match cs with
  | '.' :: rest =>
    if (rest.takeWhile Char.isDigit).isEmpty then none else some (rest.dropWhile Char.isDigit)
  | _ => some cs

/-- Reads hours and minutes. -/
def readHourMinute? (cs : List Char) : Option (List Char) := do
  let (hour, cs) ← readDigits? 2 cs
  let (minute, cs) ← readDigits? 2 (← readChar? ':' cs)
  if hour < 24 ∧ minute < 60 then pure cs else none

/-- Reads a time of day. A minute may have a leap second. -/
def readTime? (cs : List Char) : Option (List Char) := do
  let cs ← readHourMinute? cs
  let (second, cs) ← readDigits? 2 (← readChar? ':' cs)
  if second ≤ 60 then readFraction? cs else none

/-- Reads what a time differs from universal time by, if it is given. -/
def readOffset? (cs : List Char) : Option (List Char) :=
  match cs with
  | [] => some []
  | c :: rest =>
    if c = 'Z' ∨ c = 'z' then some rest
    else if c = '+' ∨ c = '-' then readHourMinute? rest
    else none

/-- Reads a date, and a time behind it if there is one. -/
def readDateTime? (cs : List Char) : Option (List Char) := do
  match ← readDate? cs with
  | [] => pure []
  | c :: rest => if c = 'T' ∨ c = 't' ∨ c = ' ' then readOffset? (← readTime? rest) else none

/-- Whether this is a date, a time, or both. -/
def isTime (cs : List Char) : Bool := readDateTime? cs == some [] || readTime? cs == some []

/-! ### Words -/

/-- The value that a word stands for. -/
def Value.ofWord? (word : List Char) : Option Value :=
  if word = "true".toList then some (.boolean true)
  else if word = "false".toList then some (.boolean false)
  else
    match integer? word with
    | some n => some (.integer n)
    | none =>
      if isDecimal word || isNamedNumber word then some (.float (String.ofList word))
      else if isTime word then some (.time (String.ofList word))
      else none

end FeedReader.Toml
