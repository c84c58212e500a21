import FeedReader.Text.Basic
import FeedReader.Text.Composition
import FeedReader.Text.Mark
import FeedReader.Text.Split
import FeedReader.Url.Domain.Direction
import FeedReader.Url.Domain.Joining
import FeedReader.Url.Domain.Punycode
import FeedReader.Url.Domain.Spelling

/-!
# Names of hosts

The name of a host on the web may be in any script and in any spelling. **It is looked up in one
form**: in ASCII, in small letters, and with a code for each label that is not in ASCII.

The parts of a name between its dots are its labels. **Each label has two forms**: the one that is
read and the one in ASCII that is looked up. A label may be given in either.
-/

namespace FeedReader.Url.Domain

/-! ### Characters -/

/-- A character that no name contains. -/
def isForbidden (c : Char) : Bool :=
  c.toNat ≤ 0x20 || c.toNat == 0x7f || "%#/:<>?@[\\]^|".toList.contains c

/-- Whether every character is in ASCII. -/
def isAscii (cs : List Char) : Bool := cs.all (·.toNat < 0x80)

/-! ### Labels -/

/-- A label in both forms. -/
structure Label where
  read : List Char
  ascii : List Char
deriving DecidableEq, Repr

/-- What labels in ASCII begin with if they stand for something else. -/
def codeMark : List Char := "xn--".toList

/-- The text in code, if it is one. -/
def encoded? (label : List Char) : Option (List Char) :=
  if codeMark.isPrefixOf label then some (label.drop codeMark.length) else none

/-- Whether a label can be read: its joiners are in their places, and a mark does not begin it. -/
def isReadable (label : List Char) : Bool := joinersFit label && !(label.head?.any Text.isMark)

/-- Whether a label is spelled and composed as names are. -/
def isWellSpelled (label : List Char) : Bool :=
  label.all (Spelling.ofChar · == .kept) && Text.composed label == label

/-- The label that is spelled and composed as names are. One in code is well spelled too, and it
is not in code for nothing. -/
def Label.ofSpelled? (label : List Char) : Option Label :=
  match encoded? label with
  | none =>
    if isReadable label then
      some
        { read := label
          ascii := if isAscii label then label else codeMark ++ Punycode.encode label }
    else none
  | some code => do
    if !isAscii label then none
    let read ← Punycode.decode? code
    if isAscii read || !isWellSpelled read || !isReadable read then none
    else some { read, ascii := label }

/-! ### Names -/

/-- The labels of a name, if a text is a name. -/
def labels? (cs : List Char) : Option (List Label) := do
  let spelled := Text.composed (← respell? cs)
  let labels ← (Text.split (· == '.') spelled).mapM Label.ofSpelled?
  if directionsFit (labels.map Label.read) then some labels else none

/-- The form of a name that is looked up. -/
def ofText? (cs : List Char) : Option (List Char) := do
  let name := Text.join '.' ((← labels? cs).map Label.ascii)
  if name.any isForbidden then none else some name

/-- The form of a name that is looked up, if the bytes are a name. -/
def ofBytes? (bs : List UInt8) : Option (List Char) := do ofText? (← Text.ofBytes? bs).toList

end FeedReader.Url.Domain
