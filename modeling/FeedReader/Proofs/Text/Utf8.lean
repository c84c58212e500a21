import FeedReader.Text.Basic
import Mathlib.Data.List.Basic

/-!
# The bytes of a text

The bytes of a text give it back. A character of ASCII is one byte, and any other character consists
of bytes outside ASCII, so that a reader of bytes never takes a part of it for a character of ASCII.
-/

namespace FeedReader

namespace Text

theorem ofBytes?_bytes (s : String) : ofBytes? (bytes s) = some s := by
  have hencode : (⟨(bytes s).toArray⟩ : ByteArray) = s.toByteArray := by
    refine ByteArray.ext ?_
    rw [← String.utf8Encode_toList, List.utf8Encode, List.data_toByteArray]
    rfl
  rw [ofBytes?, hencode, String.fromUTF8?, dif_pos s.isValidUTF8]
  rfl

/-- The bytes of a character outside ASCII are outside ASCII. -/
theorem exists_of_mem_utf8EncodeChar {c : Char} (h : 0x80 ≤ c.toNat) {b : UInt8}
    (hb : b ∈ String.utf8EncodeChar c) : ∃ n, 128 ≤ n ∧ n < 256 ∧ b = UInt8.ofNat n := by
  change 0x80 ≤ c.val.toNat at h
  rw [String.utf8EncodeChar, if_neg (by omega)] at hb
  split at hb
  · rcases List.mem_pair.mp hb with rfl | rfl <;> exact ⟨_, by omega, by omega, rfl⟩
  · split at hb <;> simp only [List.mem_cons, List.not_mem_nil, or_false] at hb
    · rcases hb with rfl | rfl | rfl <;> exact ⟨_, by omega, by omega, rfl⟩
    · rcases hb with rfl | rfl | rfl | rfl <;> exact ⟨_, by omega, by omega, rfl⟩

theorem utf8EncodeChar_of_ascii {c : Char} (h : c.toNat < 0x80) :
    String.utf8EncodeChar c = [UInt8.ofNat c.toNat] := by
  have hval : c.val.toNat ≤ 0x7f := Nat.le_of_lt_succ h
  rw [String.utf8EncodeChar, if_pos hval]
  rfl

/-- A character of ASCII is one byte, which is its code. -/
theorem exists_of_ascii {c : Char} (h : c.toNat < 0x80) :
    ∃ b, String.utf8EncodeChar c = [b] ∧ Char.ofNat b.toNat = c := by
  refine ⟨_, utf8EncodeChar_of_ascii h, ?_⟩
  rw [UInt8.toNat_ofNat', Nat.mod_eq_of_lt (by omega), Char.ofNat_toNat]

end Text

end FeedReader
