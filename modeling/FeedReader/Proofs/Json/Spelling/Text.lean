import FeedReader.Json.TextList
import FeedReader.Proofs.Text.Utf8

/-!
# The spellings of a string

A text has many spellings as a JSON string. A character stands for itself, or it is written as a
letter behind a backslash, if there is a letter for it, or by the numbers of its 16-bit units, one
or a surrogate pair, with digits of either case. **Every spelling of a text is read as the text**
(`FeedReader.Json.TextSpelling.tokens?`).

Reading goes through pieces, and so does the proof. What is between the quotes is cut into pieces in
one way only, whether these make a text or not (`FeedReader.Json.PieceSpelling.tokens?`), and the
pieces of a spelling of a text spell the bytes of the text
(`FeedReader.Json.TextSpelling.exists_pieces`).
-/

namespace FeedReader

namespace Json

/-! ### What may be written -/

/-- A digit to the base sixteen, in lower or upper case. -/
def IsHexDigit (n : Nat) (c : Char) : Prop :=
  n < 16 ∧ (c = Text.hexDigit n ∨ c = Text.upperHexDigit n)

/-- The spellings of a 16-bit unit by its number, in four digits. -/
inductive UnitSpelling : Nat → List Char → Prop
  | digits {n₁ n₂ n₃ n₄ : Nat} {c₁ c₂ c₃ c₄ : Char} (h₁ : IsHexDigit n₁ c₁) (h₂ : IsHexDigit n₂ c₂)
      (h₃ : IsHexDigit n₃ c₃) (h₄ : IsHexDigit n₄ c₄) :
      UnitSpelling (((n₁ * 16 + n₂) * 16 + n₃) * 16 + n₄) [c₁, c₂, c₃, c₄]

/-- A character that may stand for itself in a string. -/
def StandsForItself (c : Char) : Prop := c ≠ '"' ∧ c ≠ '\\' ∧ 0x20 ≤ c.toNat

/-- The characters that have a letter, with their letters. -/
def letters : List (Char × Char) :=
  [('"', '"'), ('\\', '\\'), ('/', '/'), ('\x08', 'b'), ('\x0c', 'f'), ('\n', 'n'), ('\r', 'r'),
    ('\t', 't')]

/-- The spellings of a character in a string. -/
inductive CharSpelling : Char → List Char → Prop
  | plain {c : Char} (h : StandsForItself c) : CharSpelling c [c]
  | letter {c letter : Char} (h : (c, letter) ∈ letters) : CharSpelling c ['\\', letter]
  | unit {c : Char} {digits : List Char} (h : UnitSpelling c.toNat digits) :
      CharSpelling c ('\\' :: 'u' :: digits)
  /-- A character beyond 16 bits has a surrogate pair. -/
  | pair {c : Char} {lead trail : List Char} (h : 0x10000 ≤ c.toNat)
      (hlead : UnitSpelling (0xD800 + (c.toNat - 0x10000) / 0x400) lead)
      (htrail : UnitSpelling (0xDC00 + (c.toNat - 0x10000) % 0x400) trail) :
      CharSpelling c ('\\' :: 'u' :: lead ++ '\\' :: 'u' :: trail)

/-- The spellings of some characters in a string. -/
inductive TextSpelling : List Char → List Char → Prop
  | nil : TextSpelling [] []
  | cons {c : Char} {text first rest : List Char} (hfirst : CharSpelling c first)
      (hrest : TextSpelling text rest) : TextSpelling (c :: text) (first ++ rest)

/-- What may stand between two quotes, cut into pieces. The units need not pair up. -/
inductive PieceSpelling : List Piece → List Char → Prop
  | nil : PieceSpelling [] []
  | plain {c : Char} {pieces : List Piece} {rest : List Char} (h : StandsForItself c)
      (hrest : PieceSpelling pieces rest) :
      PieceSpelling ((String.utf8EncodeChar c).map .byte ++ pieces) (c :: rest)
  | letter {c letter : Char} {pieces : List Piece} {rest : List Char} (h : (c, letter) ∈ letters)
      (hrest : PieceSpelling pieces rest) :
      PieceSpelling ((String.utf8EncodeChar c).map .byte ++ pieces) ('\\' :: letter :: rest)
  | unit {u : Nat} {digits : List Char} {pieces : List Piece} {rest : List Char}
      (h : UnitSpelling u digits) (hrest : PieceSpelling pieces rest) :
      PieceSpelling (.unit u :: pieces) ('\\' :: 'u' :: digits ++ rest)

/-! ### What the pieces of a text spell -/

theorem pieceBytes?_bytes (read bs : List UInt8) (rest : List Piece) :
    pieceBytes? read (bs.map .byte ++ rest) = pieceBytes? (bs.reverse ++ read) rest := by
  induction bs generalizing read with
  | nil => rfl
  | cons b bs ih => simp [pieceBytes?, ih]

/-- A unit that is no surrogate stands for itself, whatever follows it. -/
theorem pieceBytes?_unit (read : List UInt8) {u : Nat} (hlead : isLeadSurrogate u = false)
    (htrail : isTrailSurrogate u = false) (rest : List Piece) :
    pieceBytes? read (.unit u :: rest) = pieceBytes? (pushChar u read) rest := by
  match rest with
  | [] => simp [pieceBytes?, hlead, htrail]
  | .byte b :: rest => simp [pieceBytes?, hlead, htrail]
  | .unit v :: rest => simp [pieceBytes?, hlead, htrail]

/-- A character is no surrogate. -/
theorem not_isSurrogate (c : Char) :
    isLeadSurrogate c.toNat = false ∧ isTrailSurrogate c.toNat = false := by
  have hvalid : c.toNat < 0xD800 ∨ 0xDFFF < c.toNat ∧ c.toNat < 0x110000 := c.valid
  simp only [isLeadSurrogate, isTrailSurrogate, Bool.and_eq_false_iff, decide_eq_false_iff_not]
  omega

/-- The units of a character beyond 16 bits are a surrogate pair, which stands for it. -/
theorem surrogates_of_char {c : Char} (h : 0x10000 ≤ c.toNat) {lead trail : Nat}
    (hlead : lead = 0xD800 + (c.toNat - 0x10000) / 0x400)
    (htrail : trail = 0xDC00 + (c.toNat - 0x10000) % 0x400) :
    isLeadSurrogate lead = true ∧ isTrailSurrogate trail = true ∧
      surrogatePair lead trail = c.toNat := by
  have hvalid : c.toNat < 0xD800 ∨ 0xDFFF < c.toNat ∧ c.toNat < 0x110000 := c.valid
  refine ⟨?_, ?_, ?_⟩
  · rw [isLeadSurrogate, Bool.and_eq_true, decide_eq_true_eq, decide_eq_true_eq]
    omega
  · rw [isTrailSurrogate, Bool.and_eq_true, decide_eq_true_eq, decide_eq_true_eq]
    omega
  · change 0x10000 + (lead - 0xD800) * 0x400 + (trail - 0xDC00) = c.toNat
    omega

theorem pieceBytes?_pair (read : List UInt8) {lead trail : Nat}
    (hlead : isLeadSurrogate lead = true) (htrail : isTrailSurrogate trail = true)
    (rest : List Piece) :
    pieceBytes? read (.unit lead :: .unit trail :: rest) =
      pieceBytes? (pushChar (surrogatePair lead trail) read) rest := by
  rw [pieceBytes?, if_pos hlead, if_pos htrail]

/-- **A spelling of a text has pieces that spell its bytes.** -/
theorem TextSpelling.exists_pieces {text cs : List Char} (h : TextSpelling text cs) :
    ∃ pieces, PieceSpelling pieces cs ∧ ∀ read,
      pieceBytes? read pieces = some (read.reverse ++ text.flatMap String.utf8EncodeChar) := by
  induction h with
  | nil => exact ⟨[], .nil, fun read => by simp [pieceBytes?]⟩
  | @cons c text first rest hfirst hrest ih =>
    obtain ⟨pieces, hpieces, hbytes⟩ := ih
    -- A character comes to its bytes, be it in units or byte by byte.
    have hpushed : ∀ read, pieceBytes? (pushChar c.toNat read) pieces =
        some (read.reverse ++ (c :: text).flatMap String.utf8EncodeChar) := fun read => by
      rw [hbytes, pushChar, Char.ofNat_toNat]
      simp
    have hplain : ∀ read, pieceBytes? read ((String.utf8EncodeChar c).map .byte ++ pieces) =
        some (read.reverse ++ (c :: text).flatMap String.utf8EncodeChar) := fun read => by
      rw [pieceBytes?_bytes, hbytes]
      simp
    cases hfirst with
    | plain h => exact ⟨_, .plain h hpieces, hplain⟩
    | letter h => exact ⟨_, .letter h hpieces, hplain⟩
    | unit h =>
      obtain ⟨hlead, htrail⟩ := not_isSurrogate c
      exact ⟨_, .unit h hpieces, fun read => by
        rw [pieceBytes?_unit read hlead htrail, hpushed]⟩
    | pair h hlead htrail =>
      obtain ⟨hisLead, hisTrail, hpair⟩ := surrogates_of_char h rfl rfl
      refine ⟨_, ?_, fun read => by rw [pieceBytes?_pair read hisLead hisTrail, hpair, hpushed]⟩
      rw [List.append_assoc]
      exact .unit hlead (.unit htrail hpieces)

/-! ### Reading the pieces -/

/-- A byte that stands for itself inside a string. -/
def IsPlain (b : UInt8) : Prop := b ≠ 0x22 ∧ b ≠ 0x5C ∧ ¬b < 0x20

theorem isPlain_ofNat {n : Nat} (hbyte : n < 256) (hquote : n ≠ 0x22) (hbackslash : n ≠ 0x5C)
    (hblank : 0x20 ≤ n) : IsPlain (UInt8.ofNat n) := by
  have hval : (UInt8.ofNat n).toNat = n := by
    rw [UInt8.toNat_ofNat']
    exact Nat.mod_eq_of_lt hbyte
  refine ⟨fun heq => hquote ?_, fun heq => hbackslash ?_, fun hlt => ?_⟩
  · rw [← hval, heq]
    rfl
  · rw [← hval, heq]
    rfl
  · rw [UInt8.lt_iff_toNat_lt, hval] at hlt
    exact Nat.not_lt.mpr hblank hlt

/-- A character that stands for itself has plain bytes only. -/
theorem StandsForItself.isPlain {c : Char} (h : StandsForItself c) {b : UInt8}
    (hb : b ∈ String.utf8EncodeChar c) : IsPlain b := by
  obtain ⟨hquote, hbackslash, hblank⟩ := h
  have hquote : c.toNat ≠ 0x22 := fun heq => hquote (Char.toNat_inj.mp heq)
  have hbackslash : c.toNat ≠ 0x5C := fun heq => hbackslash (Char.toNat_inj.mp heq)
  by_cases hascii : c.toNat < 0x80
  · rw [Text.utf8EncodeChar_of_ascii hascii] at hb
    rw [List.mem_singleton.mp hb]
    exact isPlain_ofNat (by omega) hquote hbackslash (by omega)
  · obtain ⟨n, hlow, hbyte, rfl⟩ := Text.exists_of_mem_utf8EncodeChar (by omega) hb
    exact isPlain_ofNat hbyte (by omega) (by omega) (by omega)

theorem isHexDigit_hexDigit {n : Nat} (h : n < 16) : IsHexDigit n (Text.hexDigit n) :=
  ⟨h, .inl rfl⟩

theorem isHexDigit_upperHexDigit {n : Nat} (h : n < 16) : IsHexDigit n (Text.upperHexDigit n) :=
  ⟨h, .inr rfl⟩

theorem IsHexDigit.exists_byte {n : Nat} {c : Char} (h : IsHexDigit n c) :
    ∃ b, String.utf8EncodeChar c = [b] ∧ Text.digit? 16 (Char.ofNat b.toNat) = some n := by
  have hlower : ∀ n < 16, (Text.hexDigit n).toNat < 0x80 ∧
      Text.digit? 16 (Text.hexDigit n) = some n := by decide
  have hupper : ∀ n < 16, (Text.upperHexDigit n).toNat < 0x80 ∧
      Text.digit? 16 (Text.upperHexDigit n) = some n := by decide
  obtain ⟨hascii, hdigit⟩ : c.toNat < 0x80 ∧ Text.digit? 16 c = some n := by
    obtain ⟨hn, rfl | rfl⟩ := h
    · exact hlower n hn
    · exact hupper n hn
  obtain ⟨b, hb, hchar⟩ := Text.exists_of_ascii hascii
  exact ⟨b, hb, hchar ▸ hdigit⟩

section Reading

variable (read : List Token) (before : List Piece) (rest : List UInt8)

theorem tokens?_plain {bs : List UInt8} (h : ∀ b ∈ bs, IsPlain b) :
    (Lexing.string before).tokens? read (bs ++ rest) =
      (Lexing.string ((bs.map .byte).reverse ++ before)).tokens? read rest := by
  induction bs generalizing before with
  | nil => rfl
  | cons b bs ih =>
    obtain ⟨⟨hquote, hbackslash, hblank⟩, htail⟩ := List.forall_mem_cons.mp h
    rw [List.cons_append, Lexing.tokens?, Lexing.step?, if_neg hquote, if_neg hbackslash,
      if_neg hblank]
    simpa using ih (.byte b :: before) htail

theorem tokens?_digit {b : UInt8} {d : Nat} (h : Text.digit? 16 (Char.ofNat b.toNat) = some d)
    (value missing : Nat) :
    (Lexing.unit before value missing).tokens? read (b :: rest) =
      (if missing = 1 then Lexing.string (.unit (value * 16 + d) :: before)
        else Lexing.unit before (value * 16 + d) (missing - 1)).tokens? read rest := by
  rw [Lexing.tokens?, Lexing.step?, h]
  rfl

/-- A character that is written as a letter is read as its byte. -/
theorem tokens?_letter {c letter : Char} (h : (c, letter) ∈ letters) :
    (Lexing.string before).tokens? read
        (['\\', letter].flatMap String.utf8EncodeChar ++ rest) =
      (Lexing.string (((String.utf8EncodeChar c).map .byte).reverse ++ before)).tokens? read
        rest := by
  simp only [letters, List.mem_cons, Prod.mk.injEq, List.not_mem_nil, or_false] at h
  rcases h with ⟨rfl, rfl⟩ | ⟨rfl, rfl⟩ | ⟨rfl, rfl⟩ | ⟨rfl, rfl⟩ | ⟨rfl, rfl⟩ | ⟨rfl, rfl⟩ |
    ⟨rfl, rfl⟩ | ⟨rfl, rfl⟩ <;> rfl

/-- A number that is written is read as its unit. -/
theorem UnitSpelling.tokens? {u : Nat} {digits : List Char} (h : UnitSpelling u digits) :
    (Lexing.string before).tokens? read
        (('\\' :: 'u' :: digits).flatMap String.utf8EncodeChar ++ rest) =
      (Lexing.string (.unit u :: before)).tokens? read rest := by
  obtain ⟨h₁, h₂, h₃, h₄⟩ := h
  obtain ⟨b₁, hb₁, hdigit₁⟩ := h₁.exists_byte
  obtain ⟨b₂, hb₂, hdigit₂⟩ := h₂.exists_byte
  obtain ⟨b₃, hb₃, hdigit₃⟩ := h₃.exists_byte
  obtain ⟨b₄, hb₄, hdigit₄⟩ := h₄.exists_byte
  simp only [List.flatMap_cons, List.flatMap_nil, hb₁, hb₂, hb₃, hb₄]
  change (Lexing.unit before 0 4).tokens? read (b₁ :: b₂ :: b₃ :: b₄ :: rest) = _
  rw [tokens?_digit read before _ hdigit₁, if_neg (by decide),
    tokens?_digit read before _ hdigit₂, if_neg (by decide),
    tokens?_digit read before _ hdigit₃, if_neg (by decide),
    tokens?_digit read before _ hdigit₄, if_pos rfl, Nat.zero_mul, Nat.zero_add]

/-- **What is between the quotes is read as its pieces.** -/
theorem PieceSpelling.tokens? {pieces : List Piece} {cs : List Char} (h : PieceSpelling pieces cs) :
    (Lexing.string before).tokens? read (cs.flatMap String.utf8EncodeChar ++ rest) =
      (Lexing.string (pieces.reverse ++ before)).tokens? read rest := by
  induction h generalizing before with
  | nil => rfl
  | @plain c pieces cs h hrest ih =>
    rw [List.flatMap_cons, List.append_assoc, tokens?_plain read before _ fun _ => h.isPlain, ih]
    simp
  | @letter c letter pieces cs h hrest ih =>
    change (Lexing.string before).tokens? read
      ((['\\', letter] ++ cs).flatMap String.utf8EncodeChar ++ rest) = _
    rw [List.flatMap_append, List.append_assoc, tokens?_letter read before _ h, ih]
    simp
  | @unit u digits pieces cs h hrest ih =>
    rw [List.flatMap_append, List.append_assoc, UnitSpelling.tokens? read before _ h, ih]
    simp

/-- A string is read as one token, whether it is text or not. -/
theorem PieceSpelling.tokens?_quoted {pieces : List Piece} {cs : List Char}
    (h : PieceSpelling pieces cs) :
    Lexing.between.tokens? read
        (('"' :: cs ++ ['"']).flatMap String.utf8EncodeChar ++ rest) =
      Lexing.between.tokens? (.string (pieceText pieces) :: read) rest := by
  have hbytes : ('"' :: cs ++ ['"']).flatMap String.utf8EncodeChar ++ rest =
      0x22 :: (cs.flatMap String.utf8EncodeChar ++ 0x22 :: rest) := by
    simp [String.utf8EncodeChar]
  rw [hbytes]
  change (Lexing.string []).tokens? read _ = _
  rw [h.tokens?, Lexing.tokens?, Lexing.step?, if_pos rfl, List.append_nil, List.reverse_reverse]
  rfl

/-- **Every spelling of a text is read as the text.** -/
theorem TextSpelling.tokens? {s : String} {cs : List Char} (h : TextSpelling s.toList cs) :
    Lexing.between.tokens? read
        (('"' :: cs ++ ['"']).flatMap String.utf8EncodeChar ++ rest) =
      Lexing.between.tokens? (.string (some s) :: read) rest := by
  obtain ⟨pieces, hpieces, hbytes⟩ := h.exists_pieces
  have htext : pieceText pieces = some s := by
    rw [pieceText, hbytes]
    exact Text.ofBytes?_bytes s
  rw [hpieces.tokens?_quoted, htext]

end Reading

/-! ### Writing -/

/-- What is written for a character is a spelling of it. -/
theorem charSpelling_escapeChar (c : Char) : CharSpelling c (escapeChar c) := by
  cases hletter : escapeLetter? c with
  | some letter =>
    have hmem : (c, letter) ∈ letters := by
      unfold escapeLetter? at hletter
      split at hletter <;> cases hletter <;> decide
    simp only [escapeChar, hletter]
    exact .letter hmem
  | none =>
    by_cases hblank : c.toNat < 0x20
    · have hhigh : c.toNat / 16 < 16 := by omega
      have hlow : c.toNat % 16 < 16 := by omega
      have hunit := UnitSpelling.digits (isHexDigit_hexDigit (n := 0) (by decide))
        (isHexDigit_hexDigit (n := 0) (by decide)) (isHexDigit_hexDigit hhigh)
        (isHexDigit_hexDigit hlow)
      have hvalue : ((0 * 16 + 0) * 16 + c.toNat / 16) * 16 + c.toNat % 16 = c.toNat := by omega
      rw [hvalue] at hunit
      simp only [escapeChar, hletter, hblank, if_true]
      exact .unit hunit
    · obtain ⟨hquote, hbackslash⟩ : c ≠ '"' ∧ c ≠ '\\' := by
        constructor <;> rintro rfl <;> cases hletter
      simp only [escapeChar, hletter, hblank, if_false]
      exact .plain ⟨hquote, hbackslash, Nat.not_lt.mp hblank⟩

/-- **What is written for a text is a spelling of it.** -/
theorem textSpelling_escapeChars (cs : List Char) : TextSpelling cs (cs.flatMap escapeChar) := by
  induction cs with
  | nil => exact .nil
  | cons c cs ih => exact .cons (charSpelling_escapeChar c) ih

end Json

end FeedReader
