import FeedReader.Remote.Body

/-!
# Reading a body

The chunks of a body are read one after another, and the limit is checked with each of them.
**What comes of it depends only on all the bytes together** and on the announced length: the first
chunk that leads past the limit is met if and only if the whole body is past it
(`FeedReader.Remote.Body.readChunks_eq`). So the same bytes are read alike however they have been
divided (`FeedReader.Remote.Body.read_of_unbroken`).
-/

namespace FeedReader.Remote.Body

/-- The bytes that have arrived, in whatever chunks. -/
def bytes (body : Body) : List UInt8 := body.chunks.flatten

/-- The length that the server has announced. No announcement is as good as one of nothing. -/
def expected (body : Body) : Nat := body.announced.getD 0

/-- The chunks behind bytes within the limit are read as one: they are too large if they lead past
the limit, wherever that happens, and otherwise the end of the stream decides. -/
theorem readChunks_eq {limit before : Nat} (h : before ≤ limit) (isBroken : Bool)
    (chunks : List (List UInt8)) :
    readChunks limit isBroken before chunks =
      if limit < before + chunks.flatten.length then .error .tooLarge
      else if isBroken then .error (.network .brokenOff) else .ok chunks.flatten := by
  induction chunks generalizing before with
  | nil =>
    rw [readChunks, List.flatten_nil, List.length_nil, Nat.add_zero, if_neg (Nat.not_lt.mpr h)]
  | cons chunk chunks ih =>
    rw [readChunks, List.flatten_cons, List.length_append, ← Nat.add_assoc]
    split
    · -- Too large already, so all of it is too large.
      rw [if_pos (by omega)]
    · next hwithin =>
      rw [ih (Nat.not_lt.mp hwithin)]
      split
      · rfl
      · cases isBroken <;> rfl

/-- A body is too large, or broken off, or incomplete, or read, and the first of these that holds
decides. -/
theorem read_eq (limit : Nat) (body : Body) :
    body.read limit =
      if limit < body.expected ∨ limit < body.bytes.length then .error .tooLarge
      else if body.isBroken then .error (.network .brokenOff)
      else if body.bytes.length < body.expected then
        .error (.incomplete body.expected body.bytes.length)
      else .ok body.bytes := by
  have hchunks := readChunks_eq (Nat.zero_le limit) body.isBroken body.chunks
  rw [Nat.zero_add, ← bytes] at hchunks
  rw [read]
  split
  · next hnone =>
    have hexpected : body.expected = 0 := by rw [expected, hnone]; rfl
    simp only [hchunks, hexpected, Nat.not_lt_zero, false_or, if_false]
  · next expected hsome =>
    have hexpected : body.expected = expected := by rw [Body.expected, hsome]; rfl
    rw [hchunks, hexpected]
    by_cases hannounced : limit < expected
    · rw [if_pos hannounced, if_pos (Or.inl hannounced)]
    · rw [if_neg hannounced]
      by_cases hsize : limit < body.bytes.length
      · rw [if_pos hsize, if_pos (Or.inr hsize)]
        rfl
      · rw [if_neg hsize, if_neg (not_or.mpr ⟨hannounced, hsize⟩)]
        cases body.isBroken <;> rfl

/-- **Reading a body does not depend on its chunks.** When the stream ends without an error, the
body is too large if the announced length or the number of bytes is past the limit; it is
incomplete if there are fewer bytes than announced; and otherwise the bytes are what is read. So
the same bytes in other chunks, empty ones included, give the same result, what is read is never
past the limit, and a body that is as long as the limit is read. -/
theorem read_of_unbroken (limit : Nat) (announced : Option Nat) (chunks : List (List UInt8)) :
    read limit { announced, chunks } =
        (if limit < announced.getD 0 ∨ limit < chunks.flatten.length then .error .tooLarge
        else if chunks.flatten.length < announced.getD 0 then
          .error (.incomplete (announced.getD 0) chunks.flatten.length)
        else .ok chunks.flatten) ∧
      (∀ others : List (List UInt8), others.flatten = chunks.flatten →
        read limit { announced, chunks := others } = read limit { announced, chunks }) ∧
      (∀ bytes, read limit { announced, chunks } = .ok bytes → bytes.length ≤ limit) ∧
      (chunks.flatten.length = limit → announced.getD 0 ≤ limit →
        read limit { announced, chunks } = .ok chunks.flatten) := by
  have hread : ∀ chunks : List (List UInt8), read limit { announced, chunks } =
      if limit < announced.getD 0 ∨ limit < chunks.flatten.length then .error .tooLarge
      else if chunks.flatten.length < announced.getD 0 then
        .error (.incomplete (announced.getD 0) chunks.flatten.length)
      else .ok chunks.flatten := fun chunks => read_eq limit { announced, chunks }
  refine ⟨hread chunks, fun others hothers => ?_, fun bytes hbytes => ?_,
    fun hsize hannounced => ?_⟩
  · rw [hread, hread, hothers]
  · rw [hread] at hbytes
    split at hbytes
    · cases hbytes
    · next hwithin =>
      split at hbytes
      · cases hbytes
      · cases hbytes
        exact Nat.not_lt.mp (not_or.mp hwithin).2
  · rw [hread, if_neg (by omega), if_neg (by omega)]

end FeedReader.Remote.Body
