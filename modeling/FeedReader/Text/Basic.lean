/-!
# Texts, bytes and sets of characters

Texts are exchanged as their bytes in UTF-8. Lists of bytes are what the readers of this library
consume; **a list of bytes denotes a text exactly when it is the UTF-8 form of it**, and then the
text is unique.

A property that Unicode gives to characters is written in this library as a list of closed ranges of
code points **in ascending order**. Looking a character up then ends at the first range that begins
behind it. The property that most readers need is being white space.
-/

namespace FeedReader.Text

/-! ### Bytes -/

/-- The UTF-8 form of a text. -/
def bytes (s : String) : List UInt8 := s.toList.flatMap String.utf8EncodeChar

/-- The text whose UTF-8 form these bytes are. -/
def ofBytes? (bs : List UInt8) : Option String := String.fromUTF8? ⟨bs.toArray⟩

/-! ### Sets of characters -/

/-- Whether a character lies in one of the ranges. -/
def isIn (c : Char) : List (Nat × Nat) → Bool
  | [] => false
  | (first, last) :: rest =>
    if c.toNat < first then false else if c.toNat ≤ last then true else isIn c rest

/-! ### Blanks -/

/-- White space. -/
def blankRanges : List (Nat × Nat) :=
  [(0x09, 0x0D), (0x20, 0x20), (0x85, 0x85), (0xA0, 0xA0), (0x1680, 0x1680), (0x2000, 0x200A),
   (0x2028, 0x2029), (0x202F, 0x202F), (0x205F, 0x205F), (0x3000, 0x3000)]

def isBlank (c : Char) : Bool := isIn c blankRanges

/-- A text without the blanks at its ends. -/
def trim (cs : List Char) : List Char :=
  ((cs.dropWhile isBlank).reverse.dropWhile isBlank).reverse

/-- Whether a text consists of blanks only. -/
def isAllBlank (s : String) : Bool := s.toList.all isBlank

end FeedReader.Text
