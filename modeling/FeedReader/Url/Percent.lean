import FeedReader.Text.Basic
import FeedReader.Text.Numeral

/-!
# Percent signs and forms

A URL is written in ASCII, and parts of it cannot hold certain characters even of ASCII. **What
cannot be written as it is stands as the bytes of its UTF-8 form**, each a percent sign and two
digits. Each part of a URL has a set of its own of characters that are escaped.

A form is a list of named values, and the same name may occur several times. It is written in
ASCII: letters, digits and a few marks stand for themselves, **a space is written as a plus**, and
everything else as its bytes with percent signs.
-/

namespace FeedReader.Url

/-- A byte as a percent sign and two digits. -/
def escapeByte (b : UInt8) : List Char :=
  ['%', Text.upperHexDigit (b.toNat / 16), Text.upperHexDigit (b.toNat % 16)]

/-- A character, escaped if it is in the set or outside printable ASCII. -/
def escapeChar (isEscaped : Char → Bool) (c : Char) : List Char :=
  if c.toNat < 0x20 || 0x7f ≤ c.toNat || isEscaped c then
    (String.utf8EncodeChar c).flatMap escapeByte
  else [c]

/-- A text with the characters of the set escaped, and those outside printable ASCII. -/
def escape (isEscaped : Char → Bool) (cs : List Char) : List Char :=
  cs.flatMap (escapeChar isEscaped)

/-! ### What is escaped where -/

/-- What is escaped in a fragment. -/
def escapedInFragment (c : Char) : Bool := " \"<>`".toList.contains c

/-- What is escaped in a path. -/
def escapedInPath (c : Char) : Bool := escapedInFragment c || "#?\x7b\x7d".toList.contains c

/-- What is escaped in the name or the password of a user. -/
def escapedInUser (c : Char) : Bool := escapedInPath c || "/:;=@[\\]^|".toList.contains c

/-- What is escaped in a query. -/
def escapedInQuery (c : Char) : Bool := " \"#<>".toList.contains c

/-- What is escaped in the query of a scheme of the web. -/
def escapedInWebQuery (c : Char) : Bool := escapedInQuery c || c.toNat == 0x27

/-- Nothing but what no URL can hold. -/
def escapedInOpaque (_ : Char) : Bool := false

/-! ### Reading -/

/-- The value of a byte that is a digit of base 16. -/
def hexByte? (b : UInt8) : Option Nat := Text.digit? 16 (Char.ofNat b.toNat)

/-- The byte that a percent sign and two digits stand for. -/
def escapedByte? (sign high low : UInt8) : Option UInt8 := do
  if sign = 0x25 then pure (UInt8.ofNat (16 * (← hexByte? high) + (← hexByte? low))) else none

/-- The bytes that an escaped text stands for. A percent sign that two digits do not follow stands
for itself. -/
def unescape : List UInt8 → List UInt8
  | a :: b :: c :: rest =>
    match escapedByte? a b c with
    | some byte => byte :: unescape rest
    | none => a :: unescape (b :: c :: rest)
  | bs => bs

/-! ### Forms -/

/-- A character that stands for itself in a form. -/
def isPlainInForm (c : Char) : Bool := c.isAlphanum || "*-._".toList.contains c

/-- A name or a value of a form. -/
def formText (s : String) : List Char :=
  s.toList.flatMap fun c =>
    if c = ' ' then ['+'] else escapeChar (!isPlainInForm ·) c

/-- A named value of a form. -/
def formPair (pair : String × String) : List Char :=
  formText pair.1 ++ '=' :: formText pair.2

/-- The whole form. -/
def form (pairs : List (String × String)) : String :=
  String.ofList (['&'].intercalate (pairs.map formPair))

end FeedReader.Url
