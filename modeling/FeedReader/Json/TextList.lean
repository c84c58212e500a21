import FeedReader.Json.Record

/-!
# Lists of texts as JSON

A list of texts is written as an array of strings without blanks. **Writing escapes what JSON
does not allow inside a string and nothing else**: the quote, the backslash and the control
characters below the blank. Reading accepts any JSON array of strings.
-/

namespace FeedReader.Json

/-- The letter of the short escape for this character. -/
def escapeLetter? : Char → Option Char
  | '"' => some '"'
  | '\\' => some '\\'
  | '\x08' => some 'b'
  | '\x0c' => some 'f'
  | '\n' => some 'n'
  | '\r' => some 'r'
  | '\t' => some 't'
  | _ => none

/-- How a character is written inside a string. -/
def escapeChar (c : Char) : List Char :=
  match escapeLetter? c with
  | some letter => ['\\', letter]
  | none =>
    if c.toNat < 0x20 then
      ['\\', 'u', '0', '0', Text.hexDigit (c.toNat / 16), Text.hexDigit (c.toNat % 16)]
    else [c]

/-- A text as a JSON string. -/
def quote (s : String) : List Char := '"' :: s.toList.flatMap escapeChar ++ ['"']

/-- A list of texts as a JSON array. -/
def ofTextList (texts : List String) : String :=
  String.ofList ('[' :: [','].intercalate (texts.map quote) ++ [']'])

/-- The list of texts that a JSON text spells. -/
def textList? (s : String) : Option (List String) :=
  (Value.ofBytes? (Text.bytes s)).bind (Value.list? Value.text?)

end FeedReader.Json
