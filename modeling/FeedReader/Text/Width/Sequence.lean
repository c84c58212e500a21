import FeedReader.Text.Basic
import FeedReader.Text.Width.Ranges

/-!
# The width of a text

How many columns of a terminal a text takes. **Most characters take one column**; ideographs and
emoji take two, marks and invisible characters none, and a single sign of Khmer takes three.

The width of a text is the sum of the widths of its characters, **except for sequences that
are drawn as one**: emoji built from several emoji, flags, key caps, characters for which a
selector asks for the emoji or the text form, ligatures of some scripts, and the two
characters that end a line. In a text a control character takes one column.

The text is measured from its end. While a character is measured it is known what follows
it, as far as that matters to its width, and that is a value of `Follower`. Measuring
the character gives the columns that it adds, which can be negative when a sequence grows
narrower, and the follower for the character before it.
-/

namespace FeedReader.Text

/-! ### A character that stands alone -/

/-- A control character of ASCII or of Latin 1. -/
def isControlCode (c : Char) : Bool := c.toNat < 0x20 || 0x7f ≤ c.toNat && c.toNat < 0xa0

/-- The sign that is written for *and so on* in Khmer, as wide as the three letters and marks
that it stands for. -/
def khmerBeyyal : Char := '\u17d8'

/-- The width of a character that is no control character. -/
def graphicWidth (c : Char) : Nat :=
  if c.toNat < 0x7f then 1
  else if c = khmerBeyyal then 3
  else if isIn c zeroWidthRanges then 0
  else if isIn c wideRanges then 2
  else 1

/-- The width of a character. Control characters are not drawn. -/
def charWidth (c : Char) : Nat := if isControlCode c then 0 else graphicWidth c

/-! ### What follows a character -/

/-- What begins with the characters behind the one that is measured. `joined` tells that a
joiner stands before them. -/
inductive Sequel
  | other
  | lineFeed
  /-- A modifier of the colour of skin. -/
  | modifier
  /-- One regional indicator. -/
  | region
  /-- Two or more regional indicators. -/
  | regions
  | emoji
  /-- A joiner, then an emoji. -/
  | joinedEmoji
  /-- The mark of a key cap, then a joiner and an emoji. -/
  | joinedKeycap
  /-- One regional indicator, then a joiner and an emoji. -/
  | joinedRegion
  /-- An even number of regional indicators, then a joiner and an emoji. -/
  | joinedEvenRegions
  /-- An odd number of regional indicators from three on, then a joiner and an emoji. -/
  | joinedOddRegions
  /-- This many letters in tag form that end a tag, then a joiner and an emoji. -/
  | joinedTagLetters (count : Nat)
  /-- This many digits in tag form that end a tag, perhaps with letters behind them, then a
  joiner and an emoji. -/
  | joinedTagDigits (count : Nat)
  /-- The Arabic letter alef in one of its forms. -/
  | alef
  /-- The Hebrew letter lamed. -/
  | lamed (joined : Bool)
  /-- The Khmer letters that have a form below the line. -/
  | subscriptLetter
  /-- The Buginese letter ya. -/
  | ya (joined : Bool)
  /-- The Buginese vowel sign i before a joined ya. -/
  | vowelYa
  /-- A consonant of Tifinagh. -/
  | tifinagh (joined : Bool)
  /-- The consonant joiner of Tifinagh before a consonant. -/
  | tifinaghJoined
  /-- A tone letter of Lisu that combines with the one before it. -/
  | toneLetter
  /-- The letter i of Old Turkic. -/
  | orkhonI (joined : Bool)
  /-- The vowel sign e of Kirat Rai. -/
  | vowelE
  /-- The vowel sign ai of Kirat Rai, in one character or in two. -/
  | vowelAi
deriving DecidableEq, Repr

namespace Sequel

/-- Whether marks that are not drawn may stand inside the ligature that begins here. -/
def isLigature : Sequel → Bool
  | alef | lamed _ | subscriptLetter | ya _ | vowelYa | tifinagh _ | tifinaghJoined | toneLetter
  | orkhonI _ => true
  | _ => false

/-- Whether a joiner may stand before this inside a ligature. -/
def allowsJoiner (s : Sequel) : Bool := s.isLigature && s != alef

/-- The sequel with a joiner put before it. -/
def join : Sequel → Sequel
  | lamed _ => lamed true
  | ya _ => ya true
  | tifinagh _ => tifinagh true
  | orkhonI _ => orkhonI true
  | s => s

/-- Whether a selector of the emoji form before this still belongs to an emoji of several
parts. -/
def continuesEmoji : Sequel → Bool
  | joinedEmoji | joinedKeycap => true
  | _ => false

end Sequel

/-! ### Kinds of characters -/

def joiner : Char := '\u200d'

/-- The selector of the text form. -/
def textSelector : Char := '\ufe0e'

/-- The selector of the emoji form. -/
def emojiSelector : Char := '\ufe0f'

def isRegional (c : Char) : Bool := isIn c [(0x1F1E6, 0x1F1FF)]

def isSkinModifier (c : Char) : Bool := isIn c [(0x1F3FB, 0x1F3FF)]

def isTagLetter (c : Char) : Bool := isIn c [(0xE0061, 0xE007A)]

def isTagDigit (c : Char) : Bool := isIn c [(0xE0030, 0xE0039)]

/-- Marks that are not drawn. -/
def hiddenMarkRanges : List (Nat × Nat) :=
  [(0x34F, 0x34F), (0x17B4, 0x17B5), (0x180B, 0x180D), (0x180F, 0x180F), (0xFE00, 0xFE0F),
   (0xE0100, 0xE01EF)]

/-- Forms of the Arabic letter lam. -/
def lamRanges : List (Nat × Nat) :=
  [(0x644, 0x644), (0x6B5, 0x6B8), (0x76A, 0x76A), (0x8A6, 0x8A6), (0x8C7, 0x8C7)]

/-- Forms of the Arabic letter alef. -/
def alefRanges : List (Nat × Nat) :=
  [(0x622, 0x623), (0x625, 0x625), (0x627, 0x627), (0x671, 0x673), (0x675, 0x675),
   (0x773, 0x774), (0x870, 0x882)]

/-- Khmer letters that have a form below the line. -/
def subscriptLetterRanges : List (Nat × Nat) :=
  [(0x1780, 0x1782), (0x1784, 0x1787), (0x1789, 0x178C), (0x178E, 0x1793), (0x1795, 0x1798),
   (0x179B, 0x179D), (0x17A0, 0x17A0), (0x17A2, 0x17A2), (0x17A7, 0x17A7), (0x17AB, 0x17AC),
   (0x17AF, 0x17AF)]

/-- Consonants of Tifinagh. -/
def tifinaghRanges : List (Nat × Nat) := [(0x2D31, 0x2D65), (0x2D6F, 0x2D6F)]

/-- What a character is to the one before it, if it begins no sequence with those behind it. -/
def Sequel.ofChar (c : Char) : Sequel :=
  if c.toNat = 0x05DC then lamed false
  else if isIn c alefRanges then alef
  else if isIn c subscriptLetterRanges then subscriptLetter
  else if c.toNat = 0x1A10 then ya false
  else if isIn c tifinaghRanges then tifinagh false
  else if c.toNat = 0xA4FC ∨ c.toNat = 0xA4FD then toneLetter
  else if c.toNat = 0x10C03 then orkhonI false
  else if c.toNat = 0x16D67 then vowelE
  else if c.toNat = 0x16D68 then vowelAi
  else if isRegional c then region
  else if isSkinModifier c then modifier
  else if isIn c emojiRanges then emoji
  else other

/-! ### Sequences -/

/-- What a character adds to a sequence that goes on behind it, and what it is then to the
one before it. `none` if it does not belong to the sequence. -/
def Sequel.extend? : Sequel → Char → Option (Int × Sequel)
  | alef, c =>
    if isIn c lamRanges then some (0, other)
    else if isIn c transparentRanges then some (0, alef)
    else none
  | lamed true, c => if c.toNat = 0x05D0 then some (0, other) else none
  | subscriptLetter, c => if c.toNat = 0x17D2 then some (-1, other) else none
  | ya true, c => if c.toNat = 0x1A17 then some (0, vowelYa) else none
  | vowelYa, c => if c.toNat = 0x1A15 then some (0, other) else none
  | tifinagh isJoined, c =>
    if c.toNat = 0x2D7F then some (1, tifinaghJoined)
    else if isJoined && isIn c tifinaghRanges then some (0, other)
    else none
  | tifinaghJoined, c => if isIn c tifinaghRanges then some (-1, other) else none
  | toneLetter, c => if isIn c [(0xA4F8, 0xA4FB)] then some (0, other) else none
  | orkhonI true, c => if c.toNat = 0x10C32 then some (0, other) else none
  | modifier, c =>
    if isIn c modifierBaseRanges then some (0, emoji)
    else if c = joiner then some (0, joinedEmoji)
    else none
  | region, c => if isRegional c then some (1, regions) else none
  | regions, c =>
    if isRegional c then some (1, regions)
    else if c = joiner then some (0, joinedEmoji)
    else none
  | emoji, c => if c = joiner then some (0, joinedEmoji) else none
  | joinedEmoji, c =>
    if c.toNat = 0x20E3 then some (0, joinedKeycap)
    else if isRegional c then some (1, joinedRegion)
    else if isSkinModifier c then some (0, modifier)
    else if c.toNat = 0xE007F then some (0, joinedTagLetters 0)
    else if isIn c emojiRanges then some (0, emoji)
    else none
  | joinedRegion, c => if isRegional c then some (-1, joinedEvenRegions) else none
  | joinedEvenRegions, c =>
    if isRegional c then some (3, joinedOddRegions)
    else if c = joiner then some (0, joinedEmoji)
    else none
  | joinedOddRegions, c =>
    if isRegional c then some (-1, joinedEvenRegions)
    else if c = joiner then some (0, joinedEmoji)
    else none
  | joinedTagLetters n, c =>
    if isTagLetter c ∧ n < 6 then some (0, joinedTagLetters (n + 1))
    else if isTagDigit c ∧ n ≤ 4 then some (0, joinedTagDigits 1)
    else if c.toNat = 0x1F3F4 ∧ 3 ≤ n then some (0, emoji)
    else none
  | joinedTagDigits n, c =>
    if isTagDigit c ∧ n < 3 then some (0, joinedTagDigits (n + 1))
    else if c.toNat = 0x1F3F4 ∧ n = 3 then some (0, emoji)
    else none
  | vowelE, c =>
    if c.toNat = 0x16D63 ∨ c.toNat = 0x16D69 then some (0, other)
    else if c.toNat = 0x16D67 then some (0, vowelAi)
    else if c.toNat = 0x16D68 then some (1, vowelE)
    else none
  | vowelAi, c => if c.toNat = 0x16D63 then some (0, other) else none
  | _, _ => none

/-- What is known of the characters behind the one that is measured. -/
structure Follower where
  sequel : Sequel := .other
  /-- A selector of the text form stands before the sequel. -/
  text : Bool := false
  /-- A selector of the emoji form stands before the sequel. -/
  emoji : Bool := false
deriving DecidableEq, Repr

namespace Follower

/-- What follows a character when a selector of the emoji form stands between. -/
def selectEmoji (f : Follower) : Follower :=
  if f.sequel.isLigature || f.sequel.continuesEmoji then { f with emoji := true }
  else { emoji := true }

/-- What follows a character when a selector of the text form stands between. -/
def selectText (f : Follower) : Follower :=
  if f.sequel.isLigature then { f with text := true } else { text := true }

/-- What follows a character that does not heed the selector of the emoji form. -/
def dropEmoji (f : Follower) : Follower :=
  if f.sequel.isLigature then { f with emoji := false } else {}

/-- What follows a character that does not heed the selector of the text form. -/
def dropText (f : Follower) : Follower :=
  if f.sequel.isLigature then { f with text := false } else {}

/-- Measures a character as the last one of what comes before this follower, when no selector
of the emoji form applies to it. -/
def measureUnselected (f : Follower) (c : Char) : Int × Follower :=
  if c.toNat ≤ 0xa0 then
    if c = '\n' then (1, { sequel := .lineFeed })
    else if c = '\r' ∧ f = { sequel := .lineFeed } then (0, {})
    else (1, {})
  else if c = emojiSelector then (0, f.selectEmoji)
  else if c = textSelector then (0, f.selectText)
  else if f.text && isIn c textBaseRanges then (1, {})
  else
    let f := if f.text then f.dropText else f
    if f.sequel.allowsJoiner && c == joiner then (0, { f with sequel := f.sequel.join })
    else if f.sequel.allowsJoiner && isIn c hiddenMarkRanges then (0, f)
    else
      match f.sequel.extend? c with
      | some (columns, sequel) => (columns, { sequel })
      | none => (graphicWidth c, { sequel := .ofChar c })

/-- Measures a character before this follower: the columns that it adds, and what then follows
the character before it. -/
def measure (f : Follower) (c : Char) : Int × Follower :=
  if f.emoji then
    if isIn c emojiBaseRanges then
      (if f.sequel.continuesEmoji then 0 else 2, { sequel := .emoji })
    else f.dropEmoji.measureUnselected c
  else f.measureUnselected c

end Follower

/-- The columns that a text takes, and what it is to a character before it. -/
def measured : List Char → Int × Follower
  | [] => (0, {})
  | c :: cs =>
    let (columns, follower) := measured cs
    let (added, follower) := follower.measure c
    (columns + added, follower)

/-- The columns that a text takes. -/
def columns (cs : List Char) : Nat := (measured cs).1.toNat

end FeedReader.Text
