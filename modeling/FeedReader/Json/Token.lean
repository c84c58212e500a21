import FeedReader.Text.Basic
import FeedReader.Text.Numeral

/-!
# JSON tokens

The first stage of reading a JSON text: its bytes as a list of tokens. Whitespace separates
tokens and is dropped. Numbers and the words `null`, `true` and `false` are read as long as
they go on, and judged when they have ended; so `truefalse` is one bad word and not two good
ones.

Strings are read in *pieces*, a piece being a byte or a 16-bit unit that an escape names.
**A string is text when its units pair up to characters and the bytes that result are
UTF-8.** A string that is not text is a token all the same, since a reader may skip over it.
-/

namespace FeedReader.Json

/-- What a string stands for: a text, or nothing that is text. -/
abbrev StringToken := Option String

/-- A token of a JSON text. -/
inductive Token
  | openArray
  | closeArray
  | openObject
  | closeObject
  | comma
  | colon
  | null
  | bool (value : Bool)
  /-- A number written without fraction and exponent, other than a zero with a minus sign. -/
  | int (value : Int)
  /-- Any other number. -/
  | otherNumber
  | string (value : StringToken)
deriving DecidableEq, Repr

/-! ### Strings -/

/-- A part of a string: a byte of its text, or a 16-bit unit named by an escape. -/
inductive Piece
  | byte (b : UInt8)
  | unit (u : Nat)
deriving DecidableEq, Repr

def isLeadSurrogate (u : Nat) : Bool := 0xD800 ≤ u && u < 0xDC00

def isTrailSurrogate (u : Nat) : Bool := 0xDC00 ≤ u && u < 0xE000

/-- The code point of a surrogate pair. -/
def surrogatePair (lead trail : Nat) : Nat :=
  0x10000 + (lead - 0xD800) * 0x400 + (trail - 0xDC00)

/-- The bytes of a character, given by its code point, put before bytes kept in reverse. -/
def pushChar (codePoint : Nat) (read : List UInt8) : List UInt8 :=
  (String.utf8EncodeChar (Char.ofNat codePoint)).reverse ++ read

/-- The bytes that a list of pieces spells, if no surrogate stands alone. The bytes read so
far are kept in reverse. -/
def pieceBytes? (read : List UInt8) : List Piece → Option (List UInt8)
  | [] => some read.reverse
  | .byte b :: rest => pieceBytes? (b :: read) rest
  | .unit u :: .unit v :: rest =>
    if isLeadSurrogate u then
      if isTrailSurrogate v then pieceBytes? (pushChar (surrogatePair u v) read) rest else none
    else if isTrailSurrogate u then none
    else pieceBytes? (pushChar u read) (.unit v :: rest)
  | .unit u :: rest =>
    if isLeadSurrogate u || isTrailSurrogate u then none
    else pieceBytes? (pushChar u read) rest

/-- What a string made of these pieces stands for. -/
def pieceText (pieces : List Piece) : StringToken := (pieceBytes? [] pieces).bind Text.ofBytes?

/-- The byte that an escape of two characters stands for, given its second character. -/
def shortEscape? : Char → Option UInt8
  | '"' => some 0x22
  | '\\' => some 0x5C
  | '/' => some 0x2F
  | 'b' => some 0x08
  | 'f' => some 0x0C
  | 'n' => some 0x0A
  | 'r' => some 0x0D
  | 't' => some 0x09
  | _ => none

/-! ### Words and numbers -/

/-- The word tokens. -/
def wordToken? (cs : List Char) : Option Token :=
  if cs = ['n', 'u', 'l', 'l'] then some .null
  else if cs = ['t', 'r', 'u', 'e'] then some (.bool true)
  else if cs = ['f', 'a', 'l', 's', 'e'] then some (.bool false)
  else none

/-- Whether these characters are one digit or more. -/
def isDigits (cs : List Char) : Bool := !cs.isEmpty && cs.all Char.isDigit

/-- Whether these characters are an exponent, from its mark on, or nothing at all. -/
def isExponentOrEmpty : List Char → Bool
  | [] => true
  | c :: '+' :: rest => (c == 'e' || c == 'E') && isDigits rest
  | c :: '-' :: rest => (c == 'e' || c == 'E') && isDigits rest
  | c :: rest => (c == 'e' || c == 'E') && isDigits rest

/-- Whether these characters are a fraction, from its point on, an exponent, or both. -/
def isFractionOrExponent : List Char → Bool
  | '.' :: rest =>
    isDigits (rest.takeWhile Char.isDigit) && isExponentOrEmpty (rest.dropWhile Char.isDigit)
  | rest => isExponentOrEmpty rest

/-- The token for an unsigned number: the whole part has no leading zero, and what follows it
is a fraction, an exponent, both or nothing. -/
def unsignedToken? (negative : Bool) (cs : List Char) : Option Token :=
  let whole := cs.takeWhile Char.isDigit
  let rest := cs.dropWhile Char.isDigit
  if whole.isEmpty || (whole.head? == some '0' && whole.length != 1) then none
  else if rest.isEmpty then
    (Text.numeral? 10 whole).map fun n =>
      if negative then if n = 0 then .otherNumber else .int (-n) else .int n
  else if isFractionOrExponent rest then some .otherNumber
  else none

/-- The token for a number. -/
def numberToken? : List Char → Option Token
  | '-' :: rest => unsignedToken? true rest
  | cs => unsignedToken? false cs

/-! ### Lexing -/

def isWhitespace (c : Char) : Bool := c == ' ' || c == '\t' || c == '\n' || c == '\r'

/-- Whether a number may go on with this character. -/
def isNumberChar (c : Char) : Bool :=
  c.isDigit || c == '-' || c == '+' || c == '.' || c == 'e' || c == 'E'

def mark? : Char → Option Token
  | '[' => some .openArray
  | ']' => some .closeArray
  | '{' => some .openObject
  | '}' => some .closeObject
  | ',' => some .comma
  | ':' => some .colon
  | _ => none

/-- What the lexer is in the middle of. What has been read of a token is kept in reverse. -/
inductive Lexing
  | between
  | word (read : List Char)
  | number (read : List Char)
  | string (read : List Piece)
  /-- A backslash has been read inside a string. -/
  | escape (read : List Piece)
  /-- Inside an escape by number: the value so far, and the number of digits to come. -/
  | unit (read : List Piece) (value missing : Nat)
deriving DecidableEq, Repr

/-- The token that ends here, if one is being read that may end here. -/
def Lexing.finish? : Lexing → Option (List Token)
  | between => some []
  | word read => (wordToken? read.reverse).map ([·])
  | number read => (numberToken? read.reverse).map ([·])
  | string _ | escape _ | unit _ _ _ => none

/-- What the lexer does with the first character of a token. -/
def Lexing.start? (c : Char) : Option (List Token × Lexing) :=
  if isWhitespace c then some ([], between)
  else if c = '"' then some ([], string [])
  else if c.isLower then some ([], word [c])
  else if c.isDigit || c == '-' then some ([], number [c])
  else (mark? c).map fun token => ([token], between)

/-- Reads one byte: the tokens that end with it, and what the lexer is in the middle of then. -/
def Lexing.step? (b : UInt8) : Lexing → Option (List Token × Lexing)
  | between => start? (Char.ofNat b.toNat)
  | word read =>
    let c := Char.ofNat b.toNat
    if c.isLower then some ([], word (c :: read))
    else do
      let ended ← (word read).finish?
      let (tokens, next) ← start? c
      pure (ended ++ tokens, next)
  | number read =>
    let c := Char.ofNat b.toNat
    if isNumberChar c then some ([], number (c :: read))
    else do
      let ended ← (number read).finish?
      let (tokens, next) ← start? c
      pure (ended ++ tokens, next)
  | string read =>
    if b = 0x22 then some ([.string (pieceText read.reverse)], between)
    else if b = 0x5C then some ([], escape read)
    else if b < 0x20 then none
    else some ([], string (.byte b :: read))
  | escape read =>
    let c := Char.ofNat b.toNat
    if c = 'u' then some ([], unit read 0 4)
    else (shortEscape? c).map fun e => ([], string (.byte e :: read))
  | unit read value missing => do
    let d ← Text.digit? 16 (Char.ofNat b.toNat)
    let value := value * 16 + d
    pure ([], if missing = 1 then string (.unit value :: read) else unit read value (missing - 1))

/-- The tokens of a text, from the middle of one on. The tokens read so far are kept in
reverse. -/
def Lexing.tokens? (read : List Token) : Lexing → List UInt8 → Option (List Token)
  | state, [] => state.finish?.map (read.reverse ++ ·)
  | state, b :: bs =>
    match state.step? b with
    | none => none
    | some (tokens, next) => next.tokens? (tokens.reverse ++ read) bs

/-- The tokens of a JSON text. -/
def tokens? (bs : List UInt8) : Option (List Token) := Lexing.between.tokens? [] bs

end FeedReader.Json
