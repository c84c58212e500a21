import FeedReader.Proofs.Json.TextList
import FeedReader.Url.Percent

/-!
# Escaped text

An escaped character is written with few marks of ASCII (`FeedReader.Url.escapeMarks`), so what an
escaped text holds is known whatever the text was (`FeedReader.Url.mem_escapeChar`). **Bytes that
are escaped are read again as they were** (`FeedReader.Url.unescape_escapedBytes`), and so is ASCII
that is not a percent sign (`FeedReader.Url.unescape_ascii`).
-/

namespace FeedReader

namespace Url

/-- What holds of some characters is tried out on each of them. Deciding it as it stands would try
all the characters that there are. -/
theorem forall_of_all {P : Char → Prop} [DecidablePred P] {cs : List Char}
    (h : cs.all (fun c => decide (P c)) = true) : ∀ c ∈ cs, P c := by
  simpa using h

/-- The characters that escaped bytes are written with. -/
def escapeMarks : List Char := "%0123456789ABCDEF".toList

theorem upperHexDigit_mem_escapeMarks {n : Nat} (h : n < 16) :
    Text.upperHexDigit n ∈ escapeMarks := by
  have hall : ∀ n < 16, Text.upperHexDigit n ∈ escapeMarks := by decide
  exact hall n h

theorem mem_escapeByte {b : UInt8} {c : Char} (h : c ∈ escapeByte b) : c ∈ escapeMarks := by
  have hbyte : b.toNat < 256 := b.toNat_lt
  simp only [escapeByte, List.mem_cons, List.not_mem_nil, or_false] at h
  rcases h with rfl | rfl | rfl
  · decide
  · exact upperHexDigit_mem_escapeMarks (by omega)
  · exact upperHexDigit_mem_escapeMarks (by omega)

/-- A character stands for itself, or its bytes are escaped. -/
theorem escapeChar_cases (isEscaped : Char → Bool) (c : Char) :
    (escapeChar isEscaped c = [c] ∧ 0x20 ≤ c.toNat ∧ c.toNat < 0x7f ∧ isEscaped c = false) ∨
      (escapeChar isEscaped c = (String.utf8EncodeChar c).flatMap escapeByte ∧
        (c.toNat < 0x20 ∨ 0x7f ≤ c.toNat ∨ isEscaped c = true)) := by
  grind [escapeChar]

/-- **What an escaped character is written with.** -/
theorem mem_escapeChar {isEscaped : Char → Bool} {c d : Char} (h : d ∈ escapeChar isEscaped c) :
    d ∈ escapeMarks ∨ (d = c ∧ 0x20 ≤ c.toNat ∧ c.toNat < 0x7f ∧ isEscaped c = false) := by
  rcases escapeChar_cases isEscaped c with ⟨heq, hplain⟩ | ⟨heq, -⟩
  · rw [heq, List.mem_singleton] at h
    exact .inr ⟨h, hplain⟩
  · rw [heq] at h
    obtain ⟨b, -, hb⟩ := List.mem_flatMap.mp h
    exact .inl (mem_escapeByte hb)

/-! ### Bytes -/

theorem utf8EncodeChar_upperHexDigit {n : Nat} (h : n < 16) :
    ∃ b, String.utf8EncodeChar (Text.upperHexDigit n) = [b] ∧ hexByte? b = some n := by
  have hall : ∀ n < 16,
      String.utf8EncodeChar (Text.upperHexDigit n) = [UInt8.ofNat (Text.upperHexDigit n).toNat] ∧
        hexByte? (UInt8.ofNat (Text.upperHexDigit n).toNat) = some n := by decide
  exact ⟨_, hall n h⟩

/-- A byte that is not the percent sign stands for itself. -/
theorem unescape_cons {b : UInt8} (h : b ≠ 0x25) (bs : List UInt8) :
    unescape (b :: bs) = b :: unescape bs := by
  match bs with
  | [] => rfl
  | [_] => rfl
  | _ :: _ :: _ => simp [unescape, escapedByte?, h]

theorem unescape_escapedByte (b : UInt8) (bs : List UInt8) :
    unescape ((escapeByte b).flatMap String.utf8EncodeChar ++ bs) = b :: unescape bs := by
  have hbyte : b.toNat < 256 := b.toNat_lt
  obtain ⟨high, hhigh, hhighValue⟩ := utf8EncodeChar_upperHexDigit (n := b.toNat / 16) (by omega)
  obtain ⟨low, hlow, hlowValue⟩ := utf8EncodeChar_upperHexDigit (n := b.toNat % 16) (by omega)
  have hbytes : (escapeByte b).flatMap String.utf8EncodeChar = [0x25, high, low] := by
    simp only [escapeByte, List.flatMap_cons, List.flatMap_nil, hhigh, hlow]
    rfl
  have hvalue : escapedByte? 0x25 high low = some b := by
    have hread : escapedByte? 0x25 high low =
        some (UInt8.ofNat (16 * (b.toNat / 16) + b.toNat % 16)) := by
      rw [escapedByte?, if_pos rfl, hhighValue, hlowValue]
      rfl
    rw [hread, Nat.div_add_mod, UInt8.ofNat_toNat]
  rw [hbytes]
  simp [unescape, hvalue]

/-- **Escaped bytes are read as they were.** -/
theorem unescape_escapedBytes (bs rest : List UInt8) :
    unescape ((bs.flatMap escapeByte).flatMap String.utf8EncodeChar ++ rest) =
      bs ++ unescape rest := by
  induction bs with
  | nil => rfl
  | cons b bs ih =>
    rw [List.flatMap_cons, List.flatMap_append, List.append_assoc, unescape_escapedByte, ih,
      List.cons_append]

theorem unescape_ascii {c : Char} (hascii : c.toNat < 0x80) (hsign : c ≠ '%') (rest : List UInt8) :
    unescape (String.utf8EncodeChar c ++ rest) = String.utf8EncodeChar c ++ unescape rest := by
  rw [Text.utf8EncodeChar_of_ascii hascii, List.singleton_append, unescape_cons]
  · rfl
  · intro heq
    have hnum : c.toNat = 0x25 := by
      have := congrArg UInt8.toNat heq
      rw [UInt8.toNat_ofNat', Nat.mod_eq_of_lt (by omega)] at this
      exact this
    exact hsign (by rw [← Char.ofNat_toNat c, hnum])

end Url

end FeedReader
