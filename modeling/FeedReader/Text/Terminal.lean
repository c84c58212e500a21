/-!
# Text that is safe to print

The title of a story comes from anybody. Printed as it is, it could move the cursor or
retitle the window. `printable` takes out the **escape sequences** and the **control
characters** of ASCII, except tabs and line feeds.

A text is read from left to right by a reader in one of five modes. An escape sequence
begins with the escape character; what follows decides how far it goes:

* after `[`, up to the first character between `@` and `~`,
* after `]`, up to the bell or to an escape character that a backslash follows,
* before anything else, the escape character stands alone.

Sequences that the text does not end go to its end.
-/

namespace FeedReader.Text

/-- Where in an escape sequence the reader is. -/
inductive EscapeMode
  /-- In no sequence. -/
  | plain
  /-- Behind an escape character. -/
  | escape
  /-- In a sequence that began with `[`. -/
  | control
  /-- In a sequence that began with `]`. -/
  | command
  /-- In a sequence that began with `]`, behind an escape character. -/
  | commandEscape
deriving DecidableEq, Repr

/-- The character that begins an escape sequence. -/
def escapeChar : Char := '\x1b'

def bell : Char := '\x07'

/-- A control character of ASCII. -/
def isControl (c : Char) : Bool := c.toNat < 0x20 || c.toNat == 0x7f

/-- A character that is printed as it is. -/
def isPrintable (c : Char) : Bool := c == '\t' || c == '\n' || !isControl c

/-- Whether a sequence that began with `[` ends here. -/
def isFinal (c : Char) : Bool := '@' ≤ c && c ≤ '~'

namespace EscapeMode

/-- The mode behind a character that is not part of a sequence. -/
def start (c : Char) : EscapeMode := if c = escapeChar then escape else plain

/-- The mode behind a character. -/
def next : EscapeMode → Char → EscapeMode
  | plain, c => start c
  | escape, c => if c = '[' then control else if c = ']' then command else start c
  | control, c => if isFinal c then plain else control
  | command, c => if c = bell then plain else if c = escapeChar then commandEscape else command
  | commandEscape, c =>
    if c = bell ∨ c = '\\' then plain else if c = escapeChar then commandEscape else command

/-- Whether a character that is met in this mode belongs to the printed text. -/
def keeps : EscapeMode → Char → Bool
  | plain, c => isPrintable c
  | escape, c => c != '[' && c != ']' && isPrintable c
  | control, _ | command, _ | commandEscape, _ => false

end EscapeMode

/-- What is printed of a text by a reader in the given mode. -/
def printableFrom : EscapeMode → List Char → List Char
  | _, [] => []
  | mode, c :: cs =>
    if mode.keeps c then c :: printableFrom (mode.next c) cs else printableFrom (mode.next c) cs

/-- A text without escape sequences and control characters. -/
def printable (cs : List Char) : List Char := printableFrom .plain cs

/-- Whether a text can be printed as it is. -/
def isSafe (cs : List Char) : Bool := cs.all isPrintable

end FeedReader.Text
