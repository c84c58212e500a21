import FeedReader.Text.Composition.Tables

/-!
# Composite characters

Unicode has many characters that can be written in more than one way: a letter with an accent is a
character of its own, and it is also the letter followed by a mark. Such texts are compared in a
form in which **each character is as composite as possible** and the marks of a letter are in a
fixed order. The form is reached in three steps: every character is taken apart, the marks are
put in order, and everything is put together again.

Syllables of Hangul are composed of their parts by arithmetic, everything else by a table.
-/

namespace FeedReader.Text

/-! ### Syllables of Hangul -/

namespace Hangul

/-- The first syllable. -/
def firstSyllable : Nat := 0xac00
/-- The first consonant that begins a syllable. -/
def firstLead : Nat := 0x1100
def leadCount : Nat := 19
/-- The first vowel. -/
def firstVowel : Nat := 0x1161
def vowelCount : Nat := 21
/-- One less than the first consonant that ends a syllable. -/
def beforeTails : Nat := 0x11a7
/-- The number of ends of a syllable. One of them is no consonant at all. -/
def tailCount : Nat := 28

def isSyllable (n : Nat) : Bool :=
  firstSyllable ≤ n && n < firstSyllable + leadCount * vowelCount * tailCount

/-- A syllable without its last part, and that part. -/
def halves (n : Nat) : Nat × Nat :=
  let place := n - firstSyllable
  let tail := place % tailCount
  if tail = 0 then
    (firstLead + place / tailCount / vowelCount, firstVowel + place / tailCount % vowelCount)
  else (n - tail, beforeTails + tail)

/-- The syllable of two parts. -/
def join? (a b : Nat) : Option Nat :=
  if firstLead ≤ a ∧ a < firstLead + leadCount ∧ firstVowel ≤ b ∧ b < firstVowel + vowelCount then
    some (firstSyllable + ((a - firstLead) * vowelCount + (b - firstVowel)) * tailCount)
  else if isSyllable a ∧ (a - firstSyllable) % tailCount = 0 ∧
      beforeTails < b ∧ b < beforeTails + tailCount then
    some (a + (b - beforeTails))
  else none

end Hangul

/-! ### Halves -/

/-- The two halves of a composite character. -/
def halves? (c : Char) : Option (Char × Char) :=
  if Hangul.isSyllable c.toNat then
    let (a, b) := Hangul.halves c.toNat
    some (Char.ofNat a, Char.ofNat b)
  else
    (compositePairs.find? fun entry => entry.1 == c.toNat).map fun entry =>
      (Char.ofNat entry.2.1, Char.ofNat entry.2.2)

/-- The composite character of two halves. -/
def join? (a b : Char) : Option Char :=
  match Hangul.join? a.toNat b.toNat with
  | some n => some (Char.ofNat n)
  | none =>
    (compositePairs.find? fun entry =>
      entry.2.1 == a.toNat && entry.2.2 == b.toNat).map fun entry => Char.ofNat entry.1

/-- How often the first half of a character can be composite again, at most. -/
def greatestDepth : Nat := 4

/-- The parts of a character, taken apart so many times at most. -/
def partsUpTo : Nat → Char → List Char
  | 0, c => [c]
  | depth + 1, c =>
    match halves? c with
    | none => [c]
    | some (a, b) => partsUpTo depth a ++ [b]

/-- The parts of a character, none of which is composite. -/
def parts (c : Char) : List Char := partsUpTo greatestDepth c

/-! ### The order of marks -/

/-- The class of a mark. Marks of different classes do not touch each other, so their order means
nothing. Characters that are no marks have class zero. -/
def markClass (c : Char) : Nat :=
  match markClasses.find? fun (first, last, _) => first ≤ c.toNat && c.toNat ≤ last with
  | some (_, _, n) => n
  | none => 0

/-- Puts a character behind a text, which is in reverse. A mark is put before marks of higher
classes at the end of the text. -/
def placeMark (c : Char) : List Char → List Char
  | [] => [c]
  | d :: before =>
    if 0 < markClass c ∧ markClass c < markClass d then d :: placeMark c before
    else c :: d :: before

/-- The text with the marks behind each character in the order of their classes. -/
def inMarkOrder (cs : List Char) : List Char :=
  (cs.foldl (fun before c => placeMark c before) []).reverse

/-! ### Putting together -/

/-- A text that is being put together. -/
structure Composing where
  /-- What is complete, in reverse. -/
  done : List Char := []
  /-- The last character that is no mark. -/
  letter : Option Char := none
  /-- The marks behind it that do not join it, in reverse. -/
  marks : List Char := []

namespace Composing

/-- The whole text, in reverse. -/
def all (s : Composing) : List Char := s.marks ++ s.letter.toList ++ s.done

/-- Whether nothing before a character keeps it from joining the letter: marks of its own class
would. -/
def isReached (s : Composing) (c : Char) : Bool :=
  match s.marks with
  | [] => true
  | mark :: _ => markClass mark < markClass c

/-- The letter that the character joins, if it does. -/
def joined? (s : Composing) (c : Char) : Option Char :=
  if s.isReached c then s.letter.bind (join? · c) else none

/-- One more character. -/
def add (s : Composing) (c : Char) : Composing :=
  match s.joined? c with
  | some composite => { s with letter := some composite }
  | none =>
    if markClass c = 0 then { done := s.all, letter := some c, marks := [] }
    else { s with marks := c :: s.marks }

end Composing

/-- The text with each character as composite as possible. -/
def composed (cs : List Char) : List Char :=
  ((inMarkOrder (cs.flatMap parts)).foldl Composing.add {}).all.reverse

end FeedReader.Text
