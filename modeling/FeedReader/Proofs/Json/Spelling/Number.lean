import FeedReader.Json.Token
import FeedReader.Proofs.Text.Integer

/-!
# The spellings of a number

A JSON number has a whole part without needless zeros, perhaps with a minus sign, and then perhaps a
fraction and perhaps an exponent. A whole part by itself is an integer, unless it is the zero with a
minus sign, and **an integer is read as what it is**. Of any other number only that it is one is
kept.
-/

namespace FeedReader

namespace Json

/-! ### What may be written -/

/-- One digit or more. -/
def AreDigits (cs : List Char) : Prop := cs ≠ [] ∧ ∀ c ∈ cs, c.isDigit = true

/-- An exponent, from its mark on. -/
inductive IsExponent : List Char → Prop
  | exponent {mark : Char} {sign digits : List Char} (hmark : mark = 'e' ∨ mark = 'E')
      (hsign : sign = [] ∨ sign = ['+'] ∨ sign = ['-']) (hdigits : AreDigits digits) :
      IsExponent (mark :: (sign ++ digits))

/-- What may follow the whole part of a number that is no integer. -/
inductive IsTail : List Char → Prop
  | fraction {digits : List Char} (h : AreDigits digits) : IsTail ('.' :: digits)
  | exponent {cs : List Char} (h : IsExponent cs) : IsTail cs
  | both {digits cs : List Char} (h : AreDigits digits) (hexponent : IsExponent cs) :
      IsTail ('.' :: (digits ++ cs))

/-- The spellings of an integer. -/
inductive IntSpelling : Int → List Char → Prop
  | plain (n : Nat) : IntSpelling n (Nat.toDigits 10 n)
  | minus {n : Nat} (h : n ≠ 0) : IntSpelling (-n) ('-' :: Nat.toDigits 10 n)

/-- The spellings of the numbers that are no integers. -/
inductive IsOtherNumber : List Char → Prop
  | minusZero : IsOtherNumber ['-', '0']
  | plain (n : Nat) {tail : List Char} (h : IsTail tail) : IsOtherNumber (Nat.toDigits 10 n ++ tail)
  | minus (n : Nat) {tail : List Char} (h : IsTail tail) :
      IsOtherNumber ('-' :: (Nat.toDigits 10 n ++ tail))

/-! ### Reading the parts -/

theorem isDigits_of_areDigits {cs : List Char} (h : AreDigits cs) : isDigits cs = true := by
  rw [isDigits, List.isEmpty_eq_false_iff.mpr h.1, List.all_eq_true.mpr h.2]
  rfl

/-- **An exponent is recognized.** -/
theorem IsExponent.recognized {cs : List Char} (h : IsExponent cs) :
    isExponentOrEmpty cs = true := by
  obtain ⟨hmark, hsign, hdigits⟩ := h
  rename_i mark sign digits
  have hisMark : (mark == 'e' || mark == 'E') = true := by
    rcases hmark with rfl | rfl <;> rfl
  have hread := isDigits_of_areDigits hdigits
  rcases hsign with rfl | rfl | rfl
  · obtain ⟨d, ds, rfl⟩ := List.exists_cons_of_ne_nil hdigits.1
    have hdigit : d.isDigit = true := hdigits.2 d List.mem_cons_self
    rw [List.nil_append, isExponentOrEmpty, hisMark, hread]
    · rfl
    · rintro rest ⟨⟩
      cases hdigit
    · rintro rest ⟨⟩
      cases hdigit
  · rw [List.singleton_append, isExponentOrEmpty.eq_def]
    simp [hisMark, hread]
  · rw [List.singleton_append, isExponentOrEmpty.eq_def]
    simp [hisMark, hread]

/-- What begins with no digit ends the digits before it. -/
theorem span_digits {digits : List Char} (rest : List Char)
    (hdigits : ∀ c ∈ digits, c.isDigit = true) (hrest : ∀ c ∈ rest.head?, c.isDigit = false) :
    (digits ++ rest).takeWhile Char.isDigit = digits ∧
      (digits ++ rest).dropWhile Char.isDigit = rest := by
  rw [List.takeWhile_append_of_pos hdigits, List.dropWhile_append_of_pos hdigits]
  cases rest with
  | nil => simp
  | cons c rest => simp [hrest c rfl]

theorem IsExponent.head_not_isDigit {cs : List Char} (h : IsExponent cs) :
    ∀ c ∈ cs.head?, c.isDigit = false := by
  obtain ⟨rfl | rfl, -, -⟩ := h <;> rintro _ ⟨⟩ <;> rfl

/-- **What follows the whole part is recognized**, and it begins with no digit. -/
theorem IsTail.recognized {cs : List Char} (h : IsTail cs) :
    isFractionOrExponent cs = true ∧ cs ≠ [] ∧ ∀ c ∈ cs.head?, c.isDigit = false := by
  cases h with
  | @fraction digits h =>
    obtain ⟨htake, hdrop⟩ := span_digits [] h.2 (by simp)
    rw [List.append_nil] at htake hdrop
    refine ⟨?_, List.cons_ne_nil _ _, by rintro _ ⟨⟩; rfl⟩
    rw [isFractionOrExponent, htake, hdrop, isDigits_of_areDigits h]
    rfl
  | exponent h =>
    refine ⟨?_, ?_, h.head_not_isDigit⟩
    · rw [isFractionOrExponent, h.recognized]
      obtain ⟨rfl | rfl, -, -⟩ := h <;> rintro _ ⟨⟩
    · obtain ⟨-, -, -⟩ := h
      exact List.cons_ne_nil _ _
  | @both digits cs h hexponent =>
    obtain ⟨htake, hdrop⟩ := span_digits cs h.2 hexponent.head_not_isDigit
    refine ⟨?_, List.cons_ne_nil _ _, by rintro _ ⟨⟩; rfl⟩
    rw [isFractionOrExponent, htake, hdrop, isDigits_of_areDigits h,
      hexponent.recognized]
    rfl

/-! ### Whole parts -/

/-- Only the zero begins with a zero. -/
theorem head?_toDigits {n : Nat} (h : 0 < n) : (Nat.toDigits 10 n).head? ≠ some '0' := by
  induction n using Nat.base_induction 10 (by decide) with
  | single m hm =>
    rw [Nat.toDigits_of_lt_base hm, List.head?_cons]
    have hall : ∀ m < 10, 0 < m → some m.digitChar ≠ some '0' := by decide
    exact hall m hm h
  | digit m k hk hm ih =>
    rw [← Nat.toDigits_append_toDigits (by decide) hm hk,
      List.head?_append_of_ne_nil _ Nat.toDigits_ne_nil]
    exact ih hm

/-- A whole part is admissible. -/
theorem toDigits_admissible (n : Nat) :
    ((Nat.toDigits 10 n).isEmpty ||
      ((Nat.toDigits 10 n).head? == some '0' && (Nat.toDigits 10 n).length != 1)) = false := by
  rw [List.isEmpty_eq_false_iff.mpr Nat.toDigits_ne_nil, Bool.false_or]
  rcases Nat.eq_zero_or_pos n with rfl | hpos
  · rfl
  · rw [beq_eq_false_iff_ne.mpr (head?_toDigits hpos)]
    rfl

theorem isDigit_of_mem_whole {n : Nat} : ∀ c ∈ Nat.toDigits 10 n, c.isDigit = true :=
  fun _ => Nat.isDigit_of_mem_toDigits (by decide) (by decide)

theorem unsignedToken?_whole (negative : Bool) (n : Nat) :
    unsignedToken? negative (Nat.toDigits 10 n) =
      some (if negative then if (n : Int) = 0 then .otherNumber else .int (-n) else .int n) := by
  obtain ⟨htake, hdrop⟩ := span_digits [] (isDigit_of_mem_whole (n := n)) (by simp)
  rw [List.append_nil] at htake hdrop
  have hnumeral : Text.numeral? 10 (Nat.toDigits 10 n) = some n := Text.numeral?_zeroPadded 0 n
  rw [unsignedToken?, htake, hdrop, toDigits_admissible, hnumeral]
  rfl

theorem unsignedToken?_tail (negative : Bool) (n : Nat) {tail : List Char} (h : IsTail tail) :
    unsignedToken? negative (Nat.toDigits 10 n ++ tail) = some .otherNumber := by
  obtain ⟨hrecognized, hne, hhead⟩ := h.recognized
  obtain ⟨htake, hdrop⟩ := span_digits tail (isDigit_of_mem_whole (n := n)) hhead
  rw [unsignedToken?, htake, hdrop, toDigits_admissible, hrecognized,
    List.isEmpty_eq_false_iff.mpr hne]
  rfl

/-! ### Numbers -/

/-- A number without a sign begins with a digit. -/
theorem numberToken?_of_digit (n : Nat) (rest : List Char) :
    numberToken? (Nat.toDigits 10 n ++ rest) =
      unsignedToken? false (Nat.toDigits 10 n ++ rest) := by
  obtain ⟨d, ds, hds⟩ := List.exists_cons_of_ne_nil (Nat.toDigits_ne_nil (n := n) (b := 10))
  have hdigit : d.isDigit = true := isDigit_of_mem_whole d (hds ▸ List.mem_cons_self)
  rw [hds, List.cons_append, numberToken?]
  rintro rest ⟨⟩
  cases hdigit

/-- **An integer is read as what it is.** -/
theorem IntSpelling.read {n : Int} {cs : List Char} (h : IntSpelling n cs) :
    numberToken? cs = some (.int n) := by
  cases h with
  | plain n =>
    have hnumber := numberToken?_of_digit n []
    rw [List.append_nil] at hnumber
    rw [hnumber, unsignedToken?_whole]
    rfl
  | minus h =>
    rw [numberToken?, unsignedToken?_whole, if_pos rfl, if_neg (Int.natCast_ne_zero.mpr h)]

theorem IsOtherNumber.read {cs : List Char} (h : IsOtherNumber cs) :
    numberToken? cs = some .otherNumber := by
  cases h with
  | minusZero => rfl
  | plain n h => rw [numberToken?_of_digit, unsignedToken?_tail false n h]
  | minus n h => rw [numberToken?, unsignedToken?_tail true n h]

/-! ### The characters of a number -/

/-- What the lexer takes for a number: it begins with a digit or a minus sign, and goes on. -/
structure LooksLikeNumber (cs : List Char) : Prop where
  begins : ∃ c rest, cs = c :: rest ∧ (c.isDigit = true ∨ c = '-')
  goesOn : ∀ c ∈ cs, isNumberChar c = true

theorem isNumberChar_of_isDigit {c : Char} (h : c.isDigit = true) : isNumberChar c = true := by
  simp [isNumberChar, h]

theorem IsExponent.isNumberChar {cs : List Char} (h : IsExponent cs) :
    ∀ c ∈ cs, isNumberChar c = true := by
  obtain ⟨hmark, hsign, hdigits⟩ := h
  refine List.forall_mem_cons.mpr ⟨?_, List.forall_mem_append.mpr ⟨?_, fun c hc => ?_⟩⟩
  · rcases hmark with rfl | rfl <;> rfl
  · rcases hsign with rfl | rfl | rfl <;> simp [Json.isNumberChar]
  · exact isNumberChar_of_isDigit (hdigits.2 c hc)

theorem IsTail.isNumberChar {cs : List Char} (h : IsTail cs) : ∀ c ∈ cs, isNumberChar c = true := by
  have hdigits : ∀ {digits}, AreDigits digits → ∀ c ∈ digits, Json.isNumberChar c = true :=
    fun h c hc => isNumberChar_of_isDigit (h.2 c hc)
  cases h with
  | fraction h => exact List.forall_mem_cons.mpr ⟨rfl, hdigits h⟩
  | exponent h => exact h.isNumberChar
  | both h hexponent =>
    exact List.forall_mem_cons.mpr
      ⟨rfl, List.forall_mem_append.mpr ⟨hdigits h, hexponent.isNumberChar⟩⟩

theorem looksLikeNumber_of_whole (n : Nat) (tail : List Char)
    (h : ∀ c ∈ tail, isNumberChar c = true) :
    LooksLikeNumber (Nat.toDigits 10 n ++ tail) ∧
      LooksLikeNumber ('-' :: (Nat.toDigits 10 n ++ tail)) := by
  have hchars : ∀ c ∈ Nat.toDigits 10 n ++ tail, isNumberChar c = true :=
    List.forall_mem_append.mpr ⟨fun c hc => isNumberChar_of_isDigit (isDigit_of_mem_whole c hc), h⟩
  obtain ⟨d, ds, hds⟩ := List.exists_cons_of_ne_nil (Nat.toDigits_ne_nil (n := n) (b := 10))
  have hdigit : d.isDigit = true := isDigit_of_mem_whole d (hds ▸ List.mem_cons_self)
  exact ⟨⟨⟨d, ds ++ tail, by rw [hds, List.cons_append], .inl hdigit⟩, hchars⟩,
    ⟨⟨'-', _, rfl, .inr rfl⟩, List.forall_mem_cons.mpr ⟨rfl, hchars⟩⟩⟩

theorem IntSpelling.looksLikeNumber {n : Int} {cs : List Char} (h : IntSpelling n cs) :
    LooksLikeNumber cs := by
  have hwhole : ∀ n, LooksLikeNumber (Nat.toDigits 10 n) ∧
      LooksLikeNumber ('-' :: Nat.toDigits 10 n) := fun n => by
    simpa using looksLikeNumber_of_whole n [] (by simp)
  cases h with
  | plain n => exact (hwhole n).1
  | minus h => exact (hwhole _).2

theorem IsOtherNumber.looksLikeNumber {cs : List Char} (h : IsOtherNumber cs) :
    LooksLikeNumber cs := by
  cases h with
  | minusZero => exact ⟨⟨'-', ['0'], rfl, .inr rfl⟩, by simp [isNumberChar]⟩
  | plain n h => exact (looksLikeNumber_of_whole n _ h.isNumberChar).1
  | minus n h => exact (looksLikeNumber_of_whole n _ h.isNumberChar).2

end Json

end FeedReader
