import FeedReader.Text.Split

/-!
# Punycode

Names are looked up in ASCII, so a name that is not in ASCII is written in a code. Its characters
in ASCII come first. Behind a hyphen, numbers say how the others are **inserted one by one**, in
the order of their code points and, among equal ones, of their places.

An insertion is a character and a place. Counting all places for one character and then all places
for the next, each number says how many possible insertions are left out before the next one. The
numbers are written in base 36, the lowest digit first. A digit below a threshold ends its number,
and **the thresholds adapt to the numbers before**.
-/

namespace FeedReader.Url.Domain.Punycode

/-! ### Digits -/

/-- The letters stand for the digits below 26, and the digits for the others. -/
def digit (n : Nat) : Char := if n < 26 then Char.ofNat (0x61 + n) else Char.ofNat (0x30 + (n - 26))

/-- The value of a digit. -/
def digitValue? (c : Char) : Option Nat :=
  if 'a' ≤ c ∧ c ≤ 'z' then some (c.toNat - 0x61)
  else if '0' ≤ c ∧ c ≤ '9' then some (c.toNat - 0x30 + 26)
  else none

/-- The threshold for the digit at a place. The places are multiples of 36. -/
def threshold (bias place : Nat) : Nat := min 26 (max 1 (place - bias))

theorem one_le_threshold (bias place : Nat) : 1 ≤ threshold bias place := by
  unfold threshold; omega

/-- Divides a number until it is small, and counts how often. -/
def shrink (n times : Nat) : Nat × Nat :=
  if h : 455 < n then shrink (n / 35) (times + 1) else (n, times)
termination_by n
decreasing_by exact Nat.div_lt_self (by omega) (by omega)

/-- The bias behind a number, given the number of characters then. The first number is far greater
than the others, as it leads to the script of the name. -/
def nextBias (number count : Nat) (isFirst : Bool) : Nat :=
  let part := if isFirst then number / 700 else number / 2
  let (rest, times) := shrink (part + part / count) 0
  36 * times + 36 * rest / (rest + 38)

/-! ### Numbers -/

/-- A number in writing, from the digit at a place on. -/
def writeNumber (bias place n : Nat) : List Char :=
  let t := threshold bias place
  if h : n < t then [digit n]
  else digit (t + (n - t) % (36 - t)) :: writeNumber bias (place + 36) ((n - t) / (36 - t))
termination_by n
decreasing_by
  have h₁ := one_le_threshold bias place
  have h₂ : (n - threshold bias place) / (36 - threshold bias place) ≤ n - threshold bias place :=
    Nat.div_le_self _ _
  omega

/-- Reads the digits of a number from a place on, where a digit counts so much. Returns the number
added to what has been read, and what stands behind it. -/
def readNumber? (bias place weight read : Nat) : List Char → Option (Nat × List Char)
  | [] => none
  | c :: cs => do
    let d ← digitValue? c
    let t := threshold bias place
    if d < t then some (read + d * weight, cs)
    else readNumber? bias (place + 36) (weight * (36 - t)) (read + d * weight) cs

/-- A number takes at least one digit. -/
theorem readNumber?_length {bias place weight read n : Nat} {cs rest : List Char}
    (h : readNumber? bias place weight read cs = some (n, rest)) : rest.length < cs.length := by
  induction cs generalizing place weight read with
  | nil => simp [readNumber?] at h
  | cons c cs ih =>
    simp only [readNumber?, Option.bind_eq_bind, Option.bind_eq_some_iff] at h
    obtain ⟨d, -, h⟩ := h
    split at h
    · simp only [Option.some.injEq, Prod.mk.injEq] at h
      simp [← h.2]
    · have := ih h
      simp only [List.length_cons]
      omega

/-! ### Writing -/

/-- What has been written. -/
structure Writing where
  bias : Nat := 72
  /-- How many characters the insertions so far have made. -/
  count : Nat
  /-- How many possible insertions have been left out since the last one. -/
  skipped : Nat := 0
  isFirst : Bool := true
  /-- The digits, in reverse. -/
  digits : List Char := []

/-- Goes past one character of the name while the insertions of `inserted` are written. Characters
before it are there already, and those behind it are not. -/
def Writing.pass (inserted : Char) (w : Writing) (c : Char) : Writing :=
  if c < inserted then { w with skipped := w.skipped + 1 }
  else if c = inserted then
    { bias := nextBias w.skipped (w.count + 1) w.isFirst
      count := w.count + 1
      skipped := 0
      isFirst := false
      digits := (writeNumber w.bias 36 w.skipped).reverse ++ w.digits }
  else w

/-- Writes the insertions of the characters in a list, which is ascending. `next` is the code point
that is reached. -/
def Writing.insertAll (name : List Char) (w : Writing) (next : Nat) : List Char → Writing
  | [] => w
  | c :: cs =>
    let w := { w with skipped := w.skipped + (c.toNat - next) * (w.count + 1) }
    let w := name.foldl (Writing.pass c) w
    Writing.insertAll name { w with skipped := w.skipped + 1 } (c.toNat + 1) cs

/-- Puts a character into an ascending list, unless it is there. -/
def insertSorted (c : Char) : List Char → List Char
  | [] => [c]
  | d :: ds => if c < d then c :: d :: ds else if c = d then d :: ds else d :: insertSorted c ds

/-- The name in ASCII. -/
def encode (name : List Char) : List Char :=
  let plain := name.filter (·.toNat < 0x80)
  let others := (name.filter (0x80 ≤ ·.toNat)).foldr insertSorted []
  let digits := (Writing.insertAll name { count := plain.length } 0x80 others).digits.reverse
  (if plain.isEmpty then [] else plain ++ ['-']) ++ digits

/-! ### Reading -/

/-- Inserts characters into what has been read, as the digits say. `next` and `place` are the
insertion that is reached. -/
def insertFrom (bias next place : Nat) (isFirst : Bool) (read : List Char) (cs : List Char) :
    Option (List Char) :=
  if cs.isEmpty then some read
  else
    match h : readNumber? bias 36 1 0 cs with
    | none => none
    | some (number, rest) =>
      let count := read.length + 1
      let c := next + (place + number) / count
      let place := (place + number) % count
      if c.isValidChar then
        insertFrom (nextBias number count isFirst) c (place + 1) false
          (read.insertIdx place (Char.ofNat c)) rest
      else none
termination_by cs.length
decreasing_by exact readNumber?_length h

/-- The name that a text in ASCII stands for. -/
def decode? (cs : List Char) : Option (List Char) :=
  match Text.splitAtLast? '-' cs with
  | none => insertFrom 72 0x80 0 true [] cs
  | some (plain, digits) => insertFrom 72 0x80 0 true plain digits

end FeedReader.Url.Domain.Punycode
