/-!
# Numerals and machine words

Decimal, octal, binary and hexadecimal digits, in ASCII. Letters stand for the digits from ten on,
in either case. **A digit of a base is below the base**, and `numeral?` reads a whole numeral in
the usual positional way. An integer is written as a decimal numeral, with a sign before it or
without.

The numbers that the reader exchanges with others fit words of 32 or 64 bits. In this library
numbers have no limit, and **what does not fit is refused where it comes in**.
-/

namespace FeedReader

/-! ### Words -/

/-- The number of values of a word of 32 bits. -/
def word32 : Nat := 0x100000000

/-- The number of values of a word of 64 bits. -/
def word64 : Nat := 0x10000000000000000

/-- Whether an integer fits a word of 64 bits with a sign. -/
def isInt64 (n : Int) : Bool :=
  decide (-0x8000000000000000 ≤ n) && decide (n < 0x8000000000000000)

namespace Text

/-! ### Digits -/

/-- The value of a digit or letter, the digits from ten on being letters. -/
def digitValue? (c : Char) : Option Nat :=
  if '0' ≤ c ∧ c ≤ '9' then some (c.toNat - '0'.toNat)
  else if 'a' ≤ c ∧ c ≤ 'z' then some (c.toNat - 'a'.toNat + 10)
  else if 'A' ≤ c ∧ c ≤ 'Z' then some (c.toNat - 'A'.toNat + 10)
  else none

/-- The value of a digit of the given base. -/
def digit? (base : Nat) (c : Char) : Option Nat :=
  (digitValue? c).filter (· < base)

/-- The number that a list of digit values spells, most significant first. -/
def ofDigits (base : Nat) (digits : List Nat) : Nat :=
  digits.foldl (fun n d => n * base + d) 0

/-- The number that a numeral of the given base stands for, if it has digits and nothing else. -/
def numeral? (base : Nat) (cs : List Char) : Option Nat :=
  if cs.isEmpty then none else (cs.mapM (digit? base)).map (ofDigits base)

/-- The character for a digit below sixteen, in lower case. -/
def hexDigit (n : Nat) : Char :=
  if n < 10 then Char.ofNat ('0'.toNat + n) else Char.ofNat ('a'.toNat + (n - 10))

/-- The character for a digit below sixteen, in upper case. -/
def upperHexDigit (n : Nat) : Char :=
  if n < 10 then Char.ofNat ('0'.toNat + n) else Char.ofNat ('A'.toNat + (n - 10))

theorem lt_of_digit? {base n : Nat} {c : Char} (h : digit? base c = some n) : n < base := by
  simp [digit?, Option.filter_eq_some_iff] at h
  exact h.2

/-! ### Integers -/

/-- The integer that a text stands for, if it fits 64 bits. -/
def int64? (cs : List Char) : Option Int :=
  let n : Option Int := match cs with
    | '-' :: digits => (numeral? 10 digits).map fun n => -(n : Int)
    | '+' :: digits => (numeral? 10 digits).map Int.ofNat
    | digits => (numeral? 10 digits).map Int.ofNat
  n.filter isInt64

end Text

end FeedReader
