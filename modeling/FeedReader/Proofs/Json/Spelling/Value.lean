import FeedReader.Proofs.Json.Spelling.Number
import FeedReader.Proofs.Json.Spelling.Text
import Mathlib.Data.List.Chain

/-!
# The spellings of a JSON value

A value has one list of tokens, and many spellings: each token may be written in any way that is
open to it, and blanks may stand before and behind each. **Every spelling of a value is read as the
value** (`FeedReader.Json.Value.Spelling.ofBytes?`), however deeply it is nested.

The two stages of reading are taken one by one. The lexer finds the tokens of a spelling, since a
number or a word is followed by a blank, by a mark or by the end, and none of these could continue
it. The second stage, on the tokens of a value, comes to what it would come to if it had found the
value in one piece, whatever it lies in (`FeedReader.Json.Value.run?_tokens`).
-/

namespace FeedReader

namespace Json

/-! ### Tokens -/

/-- The spellings of a token. -/
inductive Token.Spelling : Token → List Char → Prop
  | openArray : Spelling .openArray ['[']
  | closeArray : Spelling .closeArray [']']
  | openObject : Spelling .openObject ['{']
  | closeObject : Spelling .closeObject ['}']
  | comma : Spelling .comma [',']
  | colon : Spelling .colon [':']
  | null : Spelling .null ['n', 'u', 'l', 'l']
  | trueWord : Spelling (.bool true) ['t', 'r', 'u', 'e']
  | falseWord : Spelling (.bool false) ['f', 'a', 'l', 's', 'e']
  | int {n : Int} {cs : List Char} (h : IntSpelling n cs) : Spelling (.int n) cs
  | otherNumber {cs : List Char} (h : IsOtherNumber cs) : Spelling .otherNumber cs
  | text {s : String} {cs : List Char} (h : TextSpelling s.toList cs) :
      Spelling (.string (some s)) ('"' :: cs ++ ['"'])
  /-- Units that do not pair up. -/
  | noText {pieces : List Piece} {cs : List Char} (h : PieceSpelling pieces cs)
      (hnone : pieceText pieces = none) : Spelling (.string none) ('"' :: cs ++ ['"'])

/-- Characters that may stand between tokens. -/
def AreBlanks (cs : List Char) : Prop := ∀ c ∈ cs, isWhitespace c = true

theorem areBlanks_nil : AreBlanks [] := fun _ hc => absurd hc List.not_mem_nil

/-- The spellings of a list of tokens. -/
inductive TokensSpelling : List Token → List Char → Prop
  | nil {blanks : List Char} (hblanks : AreBlanks blanks) : TokensSpelling [] blanks
  | cons {blanks first rest : List Char} {token : Token} {tokens : List Token}
      (hblanks : AreBlanks blanks) (hfirst : token.Spelling first)
      (hrest : TokensSpelling tokens rest) :
      TokensSpelling (token :: tokens) (blanks ++ first ++ rest)

/-- The marks, which are complete as soon as they have been read. -/
def Token.isMark : Token → Bool
  | openArray | closeArray | openObject | closeObject | comma | colon => true
  | _ => false

/-- Of two tokens next to each other, one is a mark. -/
def Separated (tokens : List Token) : Prop :=
  tokens.IsChain fun token next => token.isMark = true ∨ next.isMark = true

/-- No number and no word goes on with these bytes. -/
def Delimits (bs : List UInt8) : Prop :=
  ∀ b ∈ bs.head?, (Char.ofNat b.toNat).isLower = false ∧ isNumberChar (Char.ofNat b.toNat) = false

/-- The bytes of some characters. -/
abbrev encoded (cs : List Char) : List UInt8 := cs.flatMap String.utf8EncodeChar

section Lexing

variable (read : List Token) {rest : List UInt8}

theorem isWhitespace_cases {c : Char} (h : isWhitespace c = true) :
    c = ' ' ∨ c = '\t' ∨ c = '\n' ∨ c = '\r' := by
  simpa [isWhitespace, or_assoc] using h

theorem AreBlanks.tokens? {blanks : List Char} (h : AreBlanks blanks) :
    Lexing.between.tokens? read (encoded blanks ++ rest) = Lexing.between.tokens? read rest := by
  induction blanks with
  | nil => rfl
  | cons c blanks ih =>
    obtain ⟨hc, hblanks⟩ := List.forall_mem_cons.mp h
    have hskip : ∀ bs, Lexing.between.tokens? read (String.utf8EncodeChar c ++ bs) =
        Lexing.between.tokens? read bs := by
      intro bs
      rcases isWhitespace_cases hc with rfl | rfl | rfl | rfl <;> rfl
    rw [encoded, List.flatMap_cons, List.append_assoc, hskip, ih hblanks]

theorem AreBlanks.delimits {blanks : List Char} (h : AreBlanks blanks) (hrest : Delimits rest) :
    Delimits (encoded blanks ++ rest) := by
  cases blanks with
  | nil => exact hrest
  | cons c blanks =>
    rcases isWhitespace_cases (h c List.mem_cons_self) with rfl | rfl | rfl | rfl <;>
      rintro _ ⟨⟩ <;> decide

/-! ### Numbers and words -/

/-- A number or a word that is complete is one token, when nothing continues it. -/
theorem tokens?_finish {state : Lexing} {token : Token} (hfinish : state.finish? = some [token])
    (hkind : (∃ cs, state = .number cs) ∨ ∃ cs, state = .word cs) (hrest : Delimits rest) :
    state.tokens? read rest = Lexing.between.tokens? (token :: read) rest := by
  cases rest with
  | nil =>
    rw [Lexing.tokens?, hfinish]
    simp [Lexing.tokens?, Lexing.finish?]
  | cons b bs =>
    obtain ⟨hlower, hnumber⟩ := hrest b rfl
    have hstep : state.step? b =
        (Lexing.start? (Char.ofNat b.toNat)).map fun next => (token :: next.1, next.2) := by
      rcases hkind with ⟨cs, rfl⟩ | ⟨cs, rfl⟩
      · rw [Lexing.step?, if_neg (by rw [hnumber]; decide), hfinish]
        cases Lexing.start? (Char.ofNat b.toNat) <;> rfl
      · rw [Lexing.step?, if_neg (by rw [hlower]; decide), hfinish]
        cases Lexing.start? (Char.ofNat b.toNat) <;> rfl
    rw [Lexing.tokens?, Lexing.tokens?, hstep, Lexing.step?]
    cases Lexing.start? (Char.ofNat b.toNat) with
    | none => rfl
    | some next => simp

theorem lt_of_isNumberChar {c : Char} (h : isNumberChar c = true) : c.toNat < 0x80 := by
  simp only [isNumberChar, Bool.or_eq_true, beq_iff_eq] at h
  rcases h with ((((h | rfl) | rfl) | rfl) | rfl) | rfl
  · have hrange : 48 ≤ c.toNat ∧ c.toNat ≤ 57 := Char.isDigit_iff_toNat.mp h
    omega
  all_goals decide

/-- A number begins with a digit or with a minus sign. -/
theorem start?_number {c : Char} (h : c.isDigit = true ∨ c = '-') :
    Lexing.start? c = some ([], .number [c]) := by
  rcases h with h | rfl
  · have hall : ∀ n ≤ 57, 48 ≤ n →
        Lexing.start? (Char.ofNat n) = some ([], .number [Char.ofNat n]) := by decide
    have hrange : 48 ≤ c.toNat ∧ c.toNat ≤ 57 := Char.isDigit_iff_toNat.mp h
    rw [← Char.ofNat_toNat c]
    exact hall c.toNat hrange.2 hrange.1
  · rfl

/-- A number is read as long as it goes on. -/
theorem tokens?_numberChars {cs : List Char} (h : ∀ c ∈ cs, isNumberChar c = true)
    (before : List Char) :
    (Lexing.number before).tokens? read (encoded cs ++ rest) =
      (Lexing.number (cs.reverse ++ before)).tokens? read rest := by
  induction cs generalizing before with
  | nil => rfl
  | cons c cs ih =>
    obtain ⟨hnumber, hcs⟩ := List.forall_mem_cons.mp h
    obtain ⟨b, hb, hchar⟩ := Text.exists_of_ascii (lt_of_isNumberChar hnumber)
    rw [encoded, List.flatMap_cons, hb, List.append_assoc, List.singleton_append, Lexing.tokens?,
      Lexing.step?, hchar, if_pos hnumber]
    simpa using ih hcs (c :: before)

/-- **A number is read as one token.** -/
theorem LooksLikeNumber.tokens? {cs : List Char} (h : LooksLikeNumber cs) {token : Token}
    (htoken : numberToken? cs = some token) (hrest : Delimits rest) :
    Lexing.between.tokens? read (encoded cs ++ rest) =
      Lexing.between.tokens? (token :: read) rest := by
  obtain ⟨c, tail, rfl, hfirst⟩ := h.begins
  obtain ⟨hnumber, htail⟩ := List.forall_mem_cons.mp h.goesOn
  obtain ⟨b, hb, hchar⟩ := Text.exists_of_ascii (lt_of_isNumberChar hnumber)
  have hfinish : (Lexing.number (tail.reverse ++ [c])).finish? = some [token] := by
    rw [Lexing.finish?, List.reverse_append, List.reverse_reverse, List.reverse_singleton,
      List.singleton_append, htoken]
    rfl
  rw [encoded, List.flatMap_cons, hb, List.append_assoc, List.singleton_append, Lexing.tokens?,
    Lexing.step?, hchar, start?_number hfirst]
  exact (tokens?_numberChars read htail [c]).trans
    (tokens?_finish read hfinish (.inl ⟨_, rfl⟩) hrest)

/-- A word is read as one token. -/
theorem tokens?_word {cs : List Char} {token : Token}
    (h : (cs, token) = (['n', 'u', 'l', 'l'], .null) ∨
      (cs, token) = (['t', 'r', 'u', 'e'], .bool true) ∨
      (cs, token) = (['f', 'a', 'l', 's', 'e'], .bool false)) (hrest : Delimits rest) :
    Lexing.between.tokens? read (encoded cs ++ rest) =
      Lexing.between.tokens? (token :: read) rest := by
  have hread : Lexing.between.tokens? read (encoded cs ++ rest) =
      (Lexing.word cs.reverse).tokens? read rest := by
    rcases h with h | h | h <;> cases h <;> rfl
  have hfinish : (Lexing.word cs.reverse).finish? = some [token] := by
    rcases h with h | h | h <;> cases h <;> rfl
  rw [hread, tokens?_finish read hfinish (.inr ⟨_, rfl⟩) hrest]

/-! ### Any tokens -/

/-- **A token is read as what it is.** What follows it matters only if it is no mark. -/
theorem Token.Spelling.tokens? {token : Token} {cs : List Char} (h : token.Spelling cs)
    (hrest : token.isMark = true ∨ Delimits rest) :
    Lexing.between.tokens? read (encoded cs ++ rest) =
      Lexing.between.tokens? (token :: read) rest := by
  cases h with
  | openArray | closeArray | openObject | closeObject | comma | colon => rfl
  | null => exact tokens?_word read (.inl rfl) (hrest.resolve_left (by decide))
  | trueWord => exact tokens?_word read (.inr (.inl rfl)) (hrest.resolve_left (by decide))
  | falseWord => exact tokens?_word read (.inr (.inr rfl)) (hrest.resolve_left (by decide))
  | int h => exact h.looksLikeNumber.tokens? read h.read (hrest.resolve_left Bool.false_ne_true)
  | otherNumber h =>
    exact h.looksLikeNumber.tokens? read h.read (hrest.resolve_left Bool.false_ne_true)
  | text h => exact h.tokens? read rest
  | noText h hnone => exact hnone ▸ h.tokens?_quoted read rest

/-- A mark delimits what is before it. -/
theorem Token.Spelling.delimits {token : Token} {cs : List Char} (h : token.Spelling cs)
    (hmark : token.isMark = true) : Delimits (encoded cs ++ rest) := by
  cases h with
  | openArray | closeArray | openObject | closeObject | comma | colon => rintro _ ⟨⟩; decide
  | _ => cases hmark

/-- Before a mark and before the end, any token may stand. -/
theorem TokensSpelling.delimits {tokens : List Token} {cs : List Char}
    (h : TokensSpelling tokens cs) (hmark : ∀ next ∈ tokens.head?, next.isMark = true) :
    Delimits (encoded cs) := by
  cases h with
  | nil hblanks =>
    have hend : Delimits [] := by rintro _ ⟨⟩
    simpa using hblanks.delimits hend
  | cons hblanks hfirst hrest =>
    rw [encoded, List.append_assoc, List.flatMap_append, List.flatMap_append]
    exact hblanks.delimits (hfirst.delimits (hmark _ rfl))

/-- **The lexer finds the tokens of a spelling**, if of any two neighbours one is a mark. -/
theorem TokensSpelling.tokens? {tokens : List Token} {cs : List Char} (h : TokensSpelling tokens cs)
    (hsep : Separated tokens) :
    Lexing.between.tokens? read (encoded cs) = some (read.reverse ++ tokens) := by
  induction h generalizing read with
  | nil hblanks =>
    have hskip : Lexing.between.tokens? read (encoded _ ++ []) = _ := hblanks.tokens? read
    rw [List.append_nil] at hskip
    rw [hskip]
    rfl
  | @cons blanks first rest token tokens hblanks hfirst hrest ih =>
    obtain ⟨hnext, hsep⟩ := List.isChain_cons.mp hsep
    -- A mark is complete by itself; anything else has a blank, a mark or the end behind it.
    have hdelimited : token.isMark = true ∨ Delimits (encoded rest) := by
      by_cases hmark : token.isMark = true
      · exact .inl hmark
      · exact .inr (hrest.delimits fun next hmem => (hnext next hmem).resolve_left hmark)
    rw [encoded, List.append_assoc, List.flatMap_append, List.flatMap_append]
    rw [hblanks.tokens?, hfirst.tokens? read hdelimited, ih _ hsep]
    simp

end Lexing

/-! ### Values -/

mutual

/-- The tokens of a value. -/
def Value.tokens : Value → List Token
  | .null => [.null]
  | .bool b => [.bool b]
  | .int n => [.int n]
  | .otherNumber => [.otherNumber]
  | .string s => [.string s]
  | .array [] => [.openArray, .closeArray]
  | .array (v :: vs) => .openArray :: (v.tokens ++ laterItems vs)
  | .object [] => [.openObject, .closeObject]
  | .object ((name, v) :: ms) =>
    .openObject :: .string name :: .colon :: (v.tokens ++ laterMembers ms)

/-- The tokens behind an item of an array, to its end. -/
def laterItems : List Value → List Token
  | [] => [.closeArray]
  | v :: vs => .comma :: (v.tokens ++ laterItems vs)

/-- The tokens behind a member of an object, to its end. -/
def laterMembers : List (StringToken × Value) → List Token
  | [] => [.closeObject]
  | (name, v) :: ms => .comma :: .string name :: .colon :: (v.tokens ++ laterMembers ms)

end

/-! ### The second stage -/

/-- A value may begin an array that has just been opened. -/
theorem Value.run?_first (v : Value) (stack : List Frame) (rest : List Token) :
    Expecting.valueOrClose.run? stack (v.tokens ++ rest) =
      Expecting.value.run? (.array [] :: stack) (v.tokens ++ rest) := by
  match v with
  | .null | .bool _ | .int _ | .otherNumber | .string _ => rfl
  | .array [] | .array (_ :: _) | .object [] | .object (_ :: _) => rfl

mutual

/-- **The tokens of a value are read as the value**, whatever it lies in and whatever follows. -/
theorem Value.run?_tokens (v : Value) (stack : List Frame) (rest : List Token) :
    Expecting.value.run? stack (v.tokens ++ rest) = (Expecting.separator v).run? stack rest := by
  match v with
  | .null | .bool _ | .int _ | .otherNumber | .string _ => rfl
  | .array [] | .object [] => rfl
  | .array (v :: vs) =>
    rw [Value.tokens, List.cons_append, List.append_assoc]
    -- The array lies on the stack only when its first item has begun.
    change Expecting.valueOrClose.run? stack (v.tokens ++ (laterItems vs ++ rest)) = _
    rw [v.run?_first, v.run?_tokens, run?_laterItems]
    rfl
  | .object ((name, v) :: ms) =>
    rw [Value.tokens, List.cons_append, List.cons_append, List.cons_append, List.append_assoc]
    change Expecting.value.run? (.object [] name :: stack) (v.tokens ++ (laterMembers ms ++ rest)) =
      _
    rw [v.run?_tokens, run?_laterMembers]
    rfl

theorem run?_laterItems (vs : List Value) (v : Value) (before : List Value) (stack : List Frame)
    (rest : List Token) :
    (Expecting.separator v).run? (.array before :: stack) (laterItems vs ++ rest) =
      (Expecting.separator (.array (before.reverse ++ v :: vs))).run? stack rest := by
  match vs with
  | [] =>
    change (Expecting.separator (.array (v :: before).reverse)).run? stack rest = _
    rw [List.reverse_cons]
  | w :: ws =>
    rw [laterItems, List.cons_append, List.append_assoc]
    change Expecting.value.run? (.array (v :: before) :: stack)
      (w.tokens ++ (laterItems ws ++ rest)) = _
    rw [w.run?_tokens, run?_laterItems]
    simp

theorem run?_laterMembers (ms : List (StringToken × Value)) (name : StringToken) (v : Value)
    (before : List (StringToken × Value)) (stack : List Frame) (rest : List Token) :
    (Expecting.separator v).run? (.object before name :: stack) (laterMembers ms ++ rest) =
      (Expecting.separator (.object (before.reverse ++ (name, v) :: ms))).run? stack rest := by
  match ms with
  | [] =>
    change (Expecting.separator (.object ((name, v) :: before).reverse)).run? stack rest = _
    rw [List.reverse_cons]
  | (next, w) :: ms =>
    rw [laterMembers, List.cons_append, List.cons_append, List.cons_append, List.append_assoc]
    change Expecting.value.run? (.object ((name, v) :: before) next :: stack)
      (w.tokens ++ (laterMembers ms ++ rest)) = _
    rw [w.run?_tokens, run?_laterMembers]
    simp

end

/-! ### The neighbours of a token -/

theorem Separated.cons {token : Token} {rest : List Token}
    (hnext : token.isMark = true ∨ ∀ next ∈ rest.head?, next.isMark = true) (h : Separated rest) :
    Separated (token :: rest) :=
  List.isChain_cons.mpr ⟨fun next hmem => hnext.imp_right fun h => h next hmem, h⟩

theorem isMark_head_laterItems (vs : List Value) (rest : List Token) :
    ∀ next ∈ (laterItems vs ++ rest).head?, next.isMark = true := by
  cases vs <;> rintro _ ⟨⟩ <;> rfl

theorem isMark_head_laterMembers (ms : List (StringToken × Value)) (rest : List Token) :
    ∀ next ∈ (laterMembers ms ++ rest).head?, next.isMark = true := by
  match ms with
  | [] | _ :: _ => rintro _ ⟨⟩; rfl

mutual

/-- **Of two tokens of a value next to each other, one is a mark.** -/
theorem Value.separated (v : Value) {rest : List Token}
    (hnext : ∀ next ∈ rest.head?, next.isMark = true) (h : Separated rest) :
    Separated (v.tokens ++ rest) := by
  match v with
  | .null | .bool _ | .int _ | .otherNumber | .string _ => exact h.cons (.inr hnext)
  | .array [] | .object [] => exact (h.cons (.inl rfl)).cons (.inl rfl)
  | .array (v :: vs) =>
    rw [Value.tokens, List.cons_append, List.append_assoc]
    exact (v.separated (isMark_head_laterItems vs rest) (separated_laterItems vs h)).cons (.inl rfl)
  | .object ((name, v) :: ms) =>
    rw [Value.tokens, List.cons_append, List.cons_append, List.cons_append, List.append_assoc]
    have hvalue := (v.separated (isMark_head_laterMembers ms rest) (separated_laterMembers ms h))
    exact ((hvalue.cons (.inl rfl)).cons (.inr (by rintro _ ⟨⟩; rfl))).cons (.inl rfl)

theorem separated_laterItems (vs : List Value) {rest : List Token} (h : Separated rest) :
    Separated (laterItems vs ++ rest) := by
  match vs with
  | [] => exact h.cons (.inl rfl)
  | v :: vs =>
    -- The item stands between two commas, or a comma and the end of the array.
    rw [laterItems, List.cons_append, List.append_assoc]
    exact (v.separated (isMark_head_laterItems vs rest) (separated_laterItems vs h)).cons (.inl rfl)

theorem separated_laterMembers (ms : List (StringToken × Value)) {rest : List Token}
    (h : Separated rest) : Separated (laterMembers ms ++ rest) := by
  match ms with
  | [] => exact h.cons (.inl rfl)
  | (name, v) :: ms =>
    rw [laterMembers, List.cons_append, List.cons_append, List.cons_append, List.append_assoc]
    have hvalue := (v.separated (isMark_head_laterMembers ms rest) (separated_laterMembers ms h))
    exact ((hvalue.cons (.inl rfl)).cons (.inr (by rintro _ ⟨⟩; rfl))).cons (.inl rfl)

end

/-! ### Both stages -/

/-- The spellings of a value. -/
def Value.Spelling (v : Value) (text : String) : Prop := TokensSpelling v.tokens text.toList

/-- **Every spelling of a value is read as the value.** -/
theorem Value.Spelling.ofBytes? {v : Value} {text : String} (h : v.Spelling text) :
    Value.ofBytes? (Text.bytes text) = some v := by
  have hseparated : Separated (v.tokens ++ []) := v.separated (by rintro _ ⟨⟩) .nil
  have hread := v.run?_tokens [] []
  rw [List.append_nil] at hseparated hread
  rw [Value.ofBytes?, Json.tokens?, Text.bytes, TokensSpelling.tokens? [] h hseparated]
  exact hread

/-! ### Writing -/

/-- A spelling of a token, without blanks. -/
def Token.plain : Token → List Char
  | openArray => ['[']
  | closeArray => [']']
  | openObject => ['{']
  | closeObject => ['}']
  | comma => [',']
  | colon => [':']
  | null => ['n', 'u', 'l', 'l']
  | bool b => if b then ['t', 'r', 'u', 'e'] else ['f', 'a', 'l', 's', 'e']
  | int n => if n < 0 then '-' :: Nat.toDigits 10 n.natAbs else Nat.toDigits 10 n.natAbs
  | otherNumber => ['-', '0']
  | string (some s) => quote s
  | string none => ['"', '\\', 'u', 'd', '8', '0', '0', '"']

theorem Token.spelling_plain (token : Token) : token.Spelling token.plain := by
  match token with
  | openArray => exact .openArray
  | closeArray => exact .closeArray
  | openObject => exact .openObject
  | closeObject => exact .closeObject
  | comma => exact .comma
  | colon => exact .colon
  | null => exact .null
  | bool true => exact .trueWord
  | bool false => exact .falseWord
  | int n =>
    refine .int ?_
    rw [plain]
    split
    · next hneg =>
      have hspelled := IntSpelling.minus (n := n.natAbs) (by omega)
      rwa [Int.ofNat_natAbs_of_nonpos (Int.le_of_lt hneg), Int.neg_neg] at hspelled
    · next hpos =>
      have hspelled := IntSpelling.plain n.natAbs
      rwa [Int.natAbs_of_nonneg (Int.not_lt.mp hpos)] at hspelled
  | otherNumber => exact .otherNumber .minusZero
  | string (some s) => exact .text (textSpelling_escapeChars s.toList)
  | string none =>
    have hlead := UnitSpelling.digits (isHexDigit_hexDigit (n := 13) (by decide))
      (isHexDigit_hexDigit (n := 8) (by decide)) (isHexDigit_hexDigit (n := 0) (by decide))
      (isHexDigit_hexDigit (n := 0) (by decide))
    exact .noText (.unit hlead .nil) (by decide)

theorem tokensSpelling_plain (tokens : List Token) :
    TokensSpelling tokens (tokens.flatMap Token.plain) := by
  induction tokens with
  | nil => exact .nil areBlanks_nil
  | cons token tokens ih => exact .cons areBlanks_nil token.spelling_plain ih

/-- **Every value has a spelling.** -/
theorem Value.exists_spelling (v : Value) : ∃ text, v.Spelling text := by
  refine ⟨String.ofList (v.tokens.flatMap Token.plain), ?_⟩
  rw [Value.Spelling, String.toList_ofList]
  exact tokensSpelling_plain v.tokens

/-- Blanks may be put before a spelling. -/
theorem TokensSpelling.after_blanks {blanks cs : List Char} {tokens : List Token}
    (hblanks : AreBlanks blanks) (h : TokensSpelling tokens cs) :
    TokensSpelling tokens (blanks ++ cs) := by
  cases h with
  | nil h => exact .nil (List.forall_mem_append.mpr ⟨hblanks, h⟩)
  | cons h hfirst hrest =>
    rw [← List.append_assoc, ← List.append_assoc]
    exact .cons (List.forall_mem_append.mpr ⟨hblanks, h⟩) hfirst hrest

/-- Spellings may be put together. -/
theorem TokensSpelling.append {tokens tokens' : List Token} {cs cs' : List Char}
    (h : TokensSpelling tokens cs) (h' : TokensSpelling tokens' cs') :
    TokensSpelling (tokens ++ tokens') (cs ++ cs') := by
  induction h with
  | nil hblanks => exact h'.after_blanks hblanks
  | cons hblanks hfirst _ ih =>
    rw [List.append_assoc]
    exact .cons hblanks hfirst ih

end Json

end FeedReader
