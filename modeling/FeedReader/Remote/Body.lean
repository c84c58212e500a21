import FeedReader.Remote.Error

/-!
# The body of an answer

The body of an answer arrives in chunks, and the server may have announced its length. **What the
body is does not depend on the chunks**, only on the bytes: it is read up to a limit, and a body
that is shorter than announced is incomplete. The connection may also break while the body
arrives.
-/

namespace FeedReader.Remote

/-- The body of an answer as it arrives. -/
structure Body where
  /-- The length that the server has announced. -/
  announced : Option Nat := none
  chunks : List (List UInt8) := []
  /-- Whether the connection breaks behind the chunks. -/
  isBroken : Bool := false
deriving DecidableEq, Repr

namespace Body

/-- Reads the chunks that follow a number of bytes. -/
def readChunks (limit : Nat) (isBroken : Bool) (before : Nat) :
    List (List UInt8) → Except FetchError (List UInt8)
  | [] => if isBroken then .error (.network .brokenOff) else .ok []
  | chunk :: chunks =>
    let size := before + chunk.length
    if limit < size then .error .tooLarge
    else (readChunks limit isBroken size chunks).map (chunk ++ ·)

/-- Reads the whole body, which may be as long as the limit. -/
def read (limit : Nat) (body : Body) : Except FetchError (List UInt8) :=
  match body.announced with
  | none => readChunks limit body.isBroken 0 body.chunks
  | some expected =>
    if limit < expected then .error .tooLarge
    else do
      let bytes ← readChunks limit body.isBroken 0 body.chunks
      if bytes.length < expected then .error (.incomplete expected bytes.length) else .ok bytes

end Body

end FeedReader.Remote
