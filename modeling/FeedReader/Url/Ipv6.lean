import FeedReader.Url.Ipv4

/-!
# Addresses of eight pieces

An address consists of eight pieces of 16 bits. It is written as its pieces in base 16 with colons
between. **Two colons stand for the pieces that are left out**, which are all zero, and the last two
pieces may be written like an address of four bytes. The text of an address leaves out the longest
run of zeros, the first of several, if it has at least two.
-/

namespace FeedReader.Url

/-- An address of eight pieces. -/
structure Ipv6 where
  pieces : List Nat
deriving DecidableEq, Repr

namespace Ipv6

/-- Whether the address stays in the machine that uses it. -/
def isLoopback (a : Ipv6) : Bool := a.pieces == [0, 0, 0, 0, 0, 0, 0, 1]

/-! ### Reading -/

/-- A piece in up to four digits of base 16. -/
def piece? (cs : List Char) : Option Nat :=
  if 4 < cs.length then none else Text.numeral? 16 cs

/-- Pieces with colons between. None if there is no text. -/
def pieces? (cs : List Char) : Option (List Nat) :=
  if cs.isEmpty then some [] else (Text.split (· == ':') cs).mapM piece?

/-- Pieces with colons between, of which the last two may be written as four bytes. -/
def lastPieces? (cs : List Char) : Option (List Nat) :=
  match Text.splitAtLast? ':' cs with
  | none =>
    match Ipv4.ofBytesText? cs with
    | some a => some [a.value / 0x10000, a.value % 0x10000]
    | none => pieces? cs
  | some (before, last) =>
    match Ipv4.ofBytesText? last with
    | some a => do
      if before.isEmpty then none
      else pure ((← pieces? before) ++ [a.value / 0x10000, a.value % 0x10000])
    | none => pieces? cs

/-- What stands before the first two colons in a row, and what stands behind them. -/
def splitAtGap? : List Char → Option (List Char × List Char)
  | [] => none
  | c :: cs =>
    match c, cs with
    | ':', ':' :: rest => some ([], rest)
    | _, _ => (splitAtGap? cs).map fun (before, behind) => (c :: before, behind)

/-- The address that a text stands for. -/
def ofText? (cs : List Char) : Option Ipv6 :=
  match splitAtGap? cs with
  | none => do
    let pieces ← lastPieces? cs
    if pieces.length = 8 then pure ⟨pieces⟩ else none
  | some (before, behind) => do
    let first ← pieces? before
    let last ← lastPieces? behind
    let given := first.length + last.length
    if given < 8 then pure ⟨first ++ List.replicate (8 - given) 0 ++ last⟩ else none

/-! ### Writing -/

/-- The number of zeros that a list begins with. -/
def leadingZeros (pieces : List Nat) : Nat := (pieces.takeWhile (· == 0)).length

/-- The length of the longest run of zeros. -/
def longestRun : List Nat → Nat
  | [] => 0
  | p :: ps => max (leadingZeros (p :: ps)) (longestRun ps)

/-- The pieces before the first run of zeros of the given length, and those behind it. -/
def splitAtRun (length : Nat) : List Nat → List Nat × List Nat
  | [] => ([], [])
  | p :: ps =>
    if leadingZeros (p :: ps) = length then ([], (p :: ps).drop length)
    else
      let (before, behind) := splitAtRun length ps
      (p :: before, behind)

/-- Pieces in base 16, with colons between. -/
def piecesText (pieces : List Nat) : List Char := Text.join ':' (pieces.map (Nat.toDigits 16))

/-- The address in writing. -/
def text (a : Ipv6) : List Char :=
  let run := longestRun a.pieces
  if run < 2 then piecesText a.pieces
  else
    let (before, behind) := splitAtRun run a.pieces
    piecesText before ++ [':', ':'] ++ piecesText behind

end Ipv6

end FeedReader.Url
