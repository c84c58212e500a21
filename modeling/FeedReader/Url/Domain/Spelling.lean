import FeedReader.Text.Basic
import FeedReader.Url.Domain.Spelling.Ideographs
import FeedReader.Url.Domain.Spelling.Ranges
import FeedReader.Url.Domain.Spelling.Shifts
import FeedReader.Url.Domain.Spelling.Words

/-!
# How names are spelled

Whoever types the name of a host need not care about capitals, about full width, or about the form
that a letter has within a word: **all spellings of a name stand for one**. Some characters are left
out of it, and some make a text no name at all.
-/

namespace FeedReader.Url.Domain

/-- What becomes of a character in a name. -/
inductive Spelling
  | kept
  | replaced (text : List Char)
  | refused
deriving DecidableEq, Repr

/-- What a character is replaced by, if it is one of those that are replaced as their neighbours
are. -/
def shifted? (n : Nat) : Option Nat :=
  (shifts.find? fun (first, last, gap, _) =>
    first ≤ n && n ≤ last && (n - first) % gap == 0).map fun (first, _, _, image) =>
      image + (n - first)

/-- The text that a character is replaced by, if it has a text of its own. -/
def word? (n : Nat) : Option (List Nat) :=
  (words.find? fun (first, last, _) => first ≤ n && n ≤ last).map fun (_, _, text) => text

/-- The ideograph that stands for another one. -/
def ideograph? (n : Nat) : Option Nat := do
  let (first, images) ← ideographs.find? fun (first, images) =>
    first ≤ n && n < first + images.length
  images[n - first]?

/-- What becomes of a character in a name. -/
def Spelling.ofChar (c : Char) : Spelling :=
  let n := c.toNat
  if let some image := shifted? n then .replaced [Char.ofNat image]
  else if n < 0x80 then .kept
  else if let some text := word? n then .replaced (text.map Char.ofNat)
  else if let some image := ideograph? n then .replaced [Char.ofNat image]
  else if Text.isIn c droppedRanges then .replaced []
  else if Text.isIn c refusedRanges then .refused
  else .kept

/-- The text in the spelling of names, if all its characters can be in one. -/
def respell? : List Char → Option (List Char)
  | [] => some []
  | c :: cs =>
    match Spelling.ofChar c with
    | .kept => (respell? cs).map (c :: ·)
    | .replaced text => (respell? cs).map (text ++ ·)
    | .refused => none

end FeedReader.Url.Domain
