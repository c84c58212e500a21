import FeedReader.Text.Numeral

/-!
# TOML tokens

The first stage of reading a TOML text: its characters as a list of tokens. Comments are dropped,
but **blanks and line ends are tokens**, since they mean something in some places. A *word* is
whatever can be written without quotes: a key, a number, a date, or one of the words for truth
values. Words are read as long as they go on and judged by whoever knows what has to come.

A string in three quotes may go over several lines. It may end in up to two quotes of its own,
which then stand before the three that close it.
-/

namespace FeedReader.Toml

/-- A token of a TOML text. -/
inductive Token
  /-- A blank or a tab. -/
  | blank
  | lineEnd
  | openBracket
  | closeBracket
  | openBrace
  | closeBrace
  | comma
  | equals
  | word (chars : List Char)
  | string (text : String) (inThreeQuotes : Bool)
deriving DecidableEq, Repr

/-- The two kinds of quotes. -/
inductive Quote
  /-- Double quotes. A backslash begins an escape. -/
  | basic
  /-- Single quotes. Everything stands for itself. -/
  | plain
deriving DecidableEq, Repr

def Quote.char : Quote → Char
  | basic => '"'
  | plain => Char.ofNat 0x27

/-! ### Kinds of characters -/

def isBlank (c : Char) : Bool := c == ' ' || c == '\t'

/-- A character that strings and comments may hold. -/
def isText (c : Char) : Bool := c == '\t' || (0x20 ≤ c.toNat && c.toNat != 0x7f)

/-- A character that a key may hold without quotes. -/
def isKeyChar (c : Char) : Bool := c.isAlphanum || c == '_' || c == '-'

/-- A character that a word may hold. -/
def isWordChar (c : Char) : Bool := isKeyChar c || c == '+' || c == '.' || c == ':'

def mark? : Char → Option Token
  | '[' => some .openBracket
  | ']' => some .closeBracket
  | '{' => some .openBrace
  | '}' => some .closeBrace
  | ',' => some .comma
  | '=' => some .equals
  | _ => none

/-- The character that an escape of two characters stands for, given its second character. -/
def shortEscape? : Char → Option Char
  | 'b' => some '\x08'
  | 't' => some '\t'
  | 'n' => some '\n'
  | 'f' => some '\x0c'
  | 'r' => some '\r'
  | '"' => some '"'
  | '\\' => some '\\'
  | _ => none

/-- The character of a code point, unless the code point is no character. -/
def character? (codePoint : Nat) : Option Char :=
  if codePoint < 0xD800 ∨ (0xE000 ≤ codePoint ∧ codePoint < 0x110000) then
    some (Char.ofNat codePoint)
  else none

/-- Whether a word has the shape of a date. A time may follow it behind a single blank. -/
def looksLikeDate (word : List Char) : Bool :=
  match word with
  | [a, b, c, d, '-', e, f, '-', g, h] => [a, b, c, d, e, f, g, h].all Char.isDigit
  | _ => false

/-! ### Lexing -/

/-- What the lexer is in the middle of. What has been read of a token is kept in reverse. -/
inductive Lexing
  | between
  /-- A carriage return has been read, which a line feed has to follow. -/
  | carriage
  | comment
  | word (read : List Char)
  /-- A blank has been read behind a word that looks like a date. -/
  | wordBlank (read : List Char)
  /-- One quote has been read, or two. -/
  | opened (quote : Quote) (two : Bool)
  | string (quote : Quote) (read : List Char)
  /-- Three quotes have been read. A line end that follows at once does not count. -/
  | threeOpened (quote : Quote)
  | threeOpenedCarriage (quote : Quote)
  | three (quote : Quote) (read : List Char)
  | threeCarriage (quote : Quote) (read : List Char)
  /-- Quotes have been read inside a string in three quotes. -/
  | threeQuotes (quote : Quote) (read : List Char) (count : Nat)
  /-- A backslash has been read inside a string. -/
  | escape (inThree : Bool) (read : List Char)
  /-- Inside an escape by number: the value so far, and the number of digits to come. -/
  | codePoint (inThree : Bool) (read : List Char) (value missing : Nat)
  /-- A backslash and blanks have been read, and perhaps line ends. -/
  | gap (read : List Char) (hasLineEnd : Bool)
  | gapCarriage (read : List Char)
deriving DecidableEq, Repr

namespace Lexing

/-- The token for a string in three quotes that ends in this many quotes. -/
def threeToken (quote : Quote) (read : List Char) (count : Nat) : Token :=
  .string (String.ofList (List.replicate (count - 3) quote.char ++ read).reverse) true

/-- The tokens that end here, if what is being read may end here. -/
def finish? : Lexing → Option (List Token)
  | between | comment => some []
  | word read => some [.word read.reverse]
  | wordBlank read => some [.word read.reverse, .blank]
  | opened _ two => if two then some [.string "" false] else none
  | threeQuotes quote read count => if 3 ≤ count then some [threeToken quote read count] else none
  | _ => none

/-- What the lexer does with the first character of a token. -/
def start? (c : Char) : Option (List Token × Lexing) :=
  if isBlank c then some ([.blank], between)
  else if c = '\n' then some ([.lineEnd], between)
  else if c = '\r' then some ([], carriage)
  else if c = '#' then some ([], comment)
  else if c = Quote.basic.char then some ([], opened .basic false)
  else if c = Quote.plain.char then some ([], opened .plain false)
  else if isWordChar c then some ([], word [c])
  else (mark? c).map fun token => ([token], between)

/-- Ends what is being read, and goes on with the first character of the next token. -/
def restart? (state : Lexing) (c : Char) : Option (List Token × Lexing) := do
  let ended ← state.finish?
  let (tokens, next) ← start? c
  pure (ended ++ tokens, next)

/-- What the lexer does with a character of a string on one line. -/
def inString? (quote : Quote) (read : List Char) (c : Char) : Option (List Token × Lexing) :=
  if c = quote.char then some ([.string (String.ofList read.reverse) false], between)
  else if c = '\\' ∧ quote = .basic then some ([], escape false read)
  else if isText c then some ([], string quote (c :: read))
  else none

/-- What the lexer does with a character of a string in three quotes. -/
def inThree? (quote : Quote) (read : List Char) (c : Char) : Option (List Token × Lexing) :=
  if c = quote.char then some ([], threeQuotes quote read 1)
  else if c = '\\' ∧ quote = .basic then some ([], escape true read)
  else if c = '\n' then some ([], three quote (c :: read))
  else if c = '\r' then some ([], threeCarriage quote read)
  else if isText c then some ([], three quote (c :: read))
  else none

/-- What the lexer is in the middle of behind a character of a string in double quotes. -/
def inBasic (inThree : Bool) (read : List Char) : Lexing :=
  if inThree then three .basic read else string .basic read

/-- What the lexer does with a character in the gap that a backslash at the end of a line opens,
which goes on to the next character that is not blank. -/
def inGap? (read : List Char) (hasLineEnd : Bool) (c : Char) : Option (List Token × Lexing) :=
  if isBlank c then some ([], gap read hasLineEnd)
  else if c = '\n' then some ([], gap read true)
  else if c = '\r' then some ([], gapCarriage read)
  else if hasLineEnd then inThree? .basic read c
  else none

/-- Reads one character: the tokens that end with it, and what the lexer is in the middle of
then. -/
def step? (c : Char) : Lexing → Option (List Token × Lexing)
  | between => start? c
  | carriage => if c = '\n' then some ([.lineEnd], between) else none
  | comment =>
    if c = '\n' then some ([.lineEnd], between)
    else if c = '\r' then some ([], carriage)
    else if isText c then some ([], comment)
    else none
  | word read =>
    if isWordChar c then some ([], word (c :: read))
    else if c = ' ' ∧ looksLikeDate read.reverse then some ([], wordBlank read)
    else restart? (word read) c
  | wordBlank read =>
    if c.isDigit then some ([], word (c :: ' ' :: read)) else restart? (wordBlank read) c
  | opened quote two =>
    if two then
      if c = quote.char then some ([], threeOpened quote) else restart? (opened quote two) c
    else if c = quote.char then some ([], opened quote true)
    else inString? quote [] c
  | string quote read => inString? quote read c
  | threeOpened quote =>
    if c = '\n' then some ([], three quote [])
    else if c = '\r' then some ([], threeOpenedCarriage quote)
    else inThree? quote [] c
  | threeOpenedCarriage quote => if c = '\n' then some ([], three quote []) else none
  | three quote read => inThree? quote read c
  | threeCarriage quote read => if c = '\n' then some ([], three quote ('\n' :: read)) else none
  | threeQuotes quote read count =>
    if c = quote.char then
      if count < 5 then some ([], threeQuotes quote read (count + 1)) else none
    else if count < 3 then inThree? quote (List.replicate count quote.char ++ read) c
    else restart? (threeQuotes quote read count) c
  | escape inThree read =>
    if c = 'u' then some ([], codePoint inThree read 0 4)
    else if c = 'U' then some ([], codePoint inThree read 0 8)
    else
      match shortEscape? c with
      | some escaped => some ([], inBasic inThree (escaped :: read))
      | none => if inThree then inGap? read false c else none
  | codePoint inThree read value missing => do
    let value := value * 16 + (← Text.digit? 16 c)
    if missing = 1 then pure ([], inBasic inThree ((← character? value) :: read))
    else pure ([], codePoint inThree read value (missing - 1))
  | gap read hasLineEnd => inGap? read hasLineEnd c
  | gapCarriage read => if c = '\n' then some ([], gap read true) else none

/-- The tokens of a text, from the middle of one on. The tokens read so far are kept in
reverse. -/
def tokens? (read : List Token) : Lexing → List Char → Option (List Token)
  | state, [] => state.finish?.map (read.reverse ++ ·)
  | state, c :: cs =>
    match state.step? c with
    | none => none
    | some (tokens, next) => next.tokens? (tokens.reverse ++ read) cs

end Lexing

/-- The tokens of a TOML text. A mark of the order of bytes at its beginning does not count. -/
def tokens? (cs : List Char) : Option (List Token) :=
  match cs with
  | '\ufeff' :: rest => Lexing.between.tokens? [] rest
  | _ => Lexing.between.tokens? [] cs

end FeedReader.Toml
