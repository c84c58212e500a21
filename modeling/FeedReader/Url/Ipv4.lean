import FeedReader.Text.Numeral
import FeedReader.Text.Split

/-!
# Addresses of four bytes

An address is a number of 32 bits. It is written as its four bytes in decimal, with points
between. A URL may also write it with **fewer parts, and its parts in base 8 or 16**: the last part
then stands for all the bytes that are left, and a host whose last part looks like a number is an
address or nothing.
-/

namespace FeedReader.Url

/-- An address of four bytes. -/
structure Ipv4 where
  value : Nat
deriving DecidableEq, Repr

namespace Ipv4

/-- The four bytes, the most significant one first. -/
def bytes (a : Ipv4) : List Nat :=
  [a.value / 0x1000000 % 256, a.value / 0x10000 % 256, a.value / 0x100 % 256, a.value % 256]

/-- The four bytes in decimal. -/
def text (a : Ipv4) : List Char := Text.join '.' (a.bytes.map (Nat.toDigits 10))

/-- Whether the address stays in the machine that uses it. -/
def isLoopback (a : Ipv4) : Bool := a.value / 0x1000000 == 127

/-! ### Four bytes in decimal -/

/-- A byte in decimal, without leading zeros. -/
def byte? (cs : List Char) : Option Nat :=
  match cs with
  | '0' :: _ :: _ => none
  | _ => if 3 < cs.length then none else (Text.numeral? 10 cs).filter (· < 256)

/-- The address that is written as four bytes in decimal. -/
def ofBytesText? (cs : List Char) : Option Ipv4 :=
  match (Text.split (· == '.') cs).mapM byte? with
  | some [a, b, c, d] => some ⟨((a * 256 + b) * 256 + c) * 256 + d⟩
  | _ => none

/-! ### The forms of a URL -/

/-- A number in the form that a part of an address in a URL has: decimal, octal behind a zero,
hexadecimal behind `0x`. -/
def number? : List Char → Option Nat
  | [] => none
  | '0' :: 'x' :: [] | '0' :: 'X' :: [] => some 0
  | '0' :: 'x' :: digits | '0' :: 'X' :: digits => Text.numeral? 16 digits
  | '0' :: d :: digits => Text.numeral? 8 (d :: digits)
  | digits => Text.numeral? 10 digits

/-- The parts of a host between points. A point at the end does not count. -/
def parts (host : List Char) : List (List Char) :=
  let all := Text.split (· == '.') host
  if all.getLast? = some [] then all.dropLast else all

/-- Whether the last part of a host looks like a number, even like one in a wrong form. -/
def endsInNumber (host : List Char) : Bool :=
  match (parts host).getLast? with
  | none => false
  | some last => !last.isEmpty && last.all Char.isDigit || (number? last).isSome

/-- The address that the numbers stand for. Each but the last is a byte. -/
def ofNumbers? (numbers : List Nat) : Option Ipv4 :=
  match numbers.reverse with
  | [] => none
  | last :: others =>
    let bytes := others.reverse
    if 3 < bytes.length ∨ bytes.any (255 < ·) ∨ Nat.pow 256 (4 - bytes.length) ≤ last then none
    else some ⟨Text.ofDigits 256 bytes * Nat.pow 256 (4 - bytes.length) + last⟩

/-- The address that is written as a host. -/
def ofHost? (host : List Char) : Option Ipv4 := do
  ofNumbers? (← (parts host).mapM number?)

end Ipv4

end FeedReader.Url
