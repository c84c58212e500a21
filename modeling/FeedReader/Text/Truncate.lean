import FeedReader.Text.Width.Sequence

/-!
# Cutting a text to a width

A text that takes more columns than there are is cut, and `...` takes the place of what is
gone. Where there is no room for more than the dots, the text is cut without them.

Whether a text fits is decided by what is drawn, with sequences of characters counted as
one. **The cut is made by single characters**: as many are kept as fit when each is
counted by itself.
-/

namespace FeedReader.Text

/-- The dots that stand for what was cut. -/
def ellipsis : List Char := ['.', '.', '.']

/-- The longest beginning of the text whose characters, each counted by itself, take no more
columns than the budget. -/
def longestFitting (budget : Nat) : List Char → List Char
  | [] => []
  | c :: cs =>
    if charWidth c ≤ budget then c :: longestFitting (budget - charWidth c) cs else []

/-- Whether the text need not be cut. -/
def fits (cs : List Char) (width : Nat) : Bool := columns cs ≤ width

/-- The text, cut if it takes more columns than the given width. -/
def truncate (cs : List Char) (width : Nat) : List Char :=
  if fits cs width then cs
  else if width ≤ ellipsis.length then longestFitting width cs
  else longestFitting (width - ellipsis.length) cs ++ ellipsis

end FeedReader.Text
