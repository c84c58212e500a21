import FeedReader.Proofs.Text.Integer
import FeedReader.Text.Split
import Mathlib.Algebra.Group.Nat.Defs
import Mathlib.Data.List.Induction
import Mathlib.Data.List.TakeWhile

/-!
# Numerals in any base

**The digits of a number are read as that number** (`FeedReader.Text.numeral?_toDigits`), in decimal
as in base 16, and a numeral of a few digits stands for a small number
(`FeedReader.Text.lt_pow_of_numeral?`). Addresses are written as numerals with separators between,
and the parts of a text that has been joined are found again (`FeedReader.Text.split_join`).
-/

namespace FeedReader

namespace Text

/-! ### Joined parts -/

section

variable {separator : Char} {parts : List (List Char)}

theorem join_cons (part : List Char) (parts : List (List Char)) :
    join separator (part :: parts) = part ++ parts.flatMap (separator :: ·) := by
  induction parts generalizing part with
  | nil => exact (List.append_nil part).symm
  | cons next parts ih =>
    rw [join, ih, List.flatMap_cons, List.cons_append]
    exact List.cons_ne_nil next parts

theorem not_separates {cs : List Char} (h : separator ∉ cs) :
    ∀ c ∈ cs, (c == separator) = false := by
  intro c hc
  refine beq_eq_false_iff_ne.mpr ?_
  rintro rfl
  exact h hc

theorem split_of_not_mem {cs : List Char} (h : separator ∉ cs) :
    split (· == separator) cs = [cs] :=
  split_of_forall (not_separates h)

/-- **Parts that are joined are found again.** -/
theorem split_join (hne : parts ≠ []) (h : ∀ part ∈ parts, separator ∉ part) :
    split (· == separator) (join separator parts) = parts := by
  obtain ⟨part, parts, rfl⟩ := List.exists_cons_of_ne_nil hne
  rw [join_cons]
  refine split_flatMap ?_ fun p hp => not_separates (h p hp)
  exact beq_self_eq_true separator

theorem mem_join {c : Char} (h : c ∈ join separator parts) :
    c = separator ∨ ∃ part ∈ parts, c ∈ part := by
  cases parts with
  | nil => cases h
  | cons part parts =>
    rw [join_cons, List.mem_append, List.mem_flatMap] at h
    rcases h with hfirst | ⟨other, hother, hc⟩
    · exact .inr ⟨part, List.mem_cons_self, hfirst⟩
    · rcases List.mem_cons.mp hc with rfl | hc
      · exact .inl rfl
      · exact .inr ⟨other, List.mem_cons_of_mem _ hother, hc⟩

theorem splitAtLast?_of_not_mem {cs : List Char} (h : separator ∉ cs) :
    splitAtLast? separator cs = none := by
  have hall : cs.reverse.dropWhile (· != separator) = [] := by
    refine List.dropWhile_eq_nil_iff.mpr fun c hc => bne_iff_ne.mpr ?_
    rintro rfl
    exact h (List.mem_reverse.mp hc)
  simp only [splitAtLast?, hall]

/-- What stands behind the last separator is a part of the text. -/
theorem subset_of_splitAtLast? {cs before last : List Char}
    (h : splitAtLast? separator cs = some (before, last)) : last ⊆ cs := by
  unfold splitAtLast? at h
  simp only at h
  split at h
  · cases h
  · cases h
    intro c hc
    exact List.mem_reverse.mp ((List.takeWhile_sublist _).subset (List.mem_reverse.mp hc))

end

/-! ### Digits -/

section

variable {base n : Nat} {cs : List Char}

theorem ofDigits_concat (base : Nat) (digits : List Nat) (d : Nat) :
    ofDigits base (digits ++ [d]) = ofDigits base digits * base + d :=
  List.foldl_concat ..

theorem ofDigits_lt {digits : List Nat} (h : ∀ d ∈ digits, d < base) :
    ofDigits base digits < base ^ digits.length := by
  induction digits using List.reverseRecOn with
  | nil => exact Nat.one_pos
  | append_singleton digits d ih =>
    obtain ⟨hdigits, hd⟩ := List.forall_mem_append.mp h
    have hlt := ih hdigits
    have hlast : d < base := hd d (List.mem_singleton.mpr rfl)
    rw [ofDigits_concat, List.length_append, List.length_singleton, Nat.pow_succ, Nat.mul_comm]
    exact Nat.mul_add_lt_mul_of_lt_of_lt hlt hlast

/-- **A numeral of a few digits stands for a small number.** -/
theorem lt_pow_of_numeral? (h : numeral? base cs = some n) : n < base ^ cs.length := by
  rw [numeral?] at h
  split at h
  · cases h
  · obtain ⟨digits, hdigits, rfl⟩ := Option.map_eq_some_iff.mp h
    rw [(forall₂_of_mapM hdigits).length_eq]
    refine ofDigits_lt fun d hd => ?_
    obtain ⟨c, -, hc⟩ := exists_mem_of_mem_mapM hdigits hd
    exact lt_of_digit? hc

theorem digit?_digitChar (hbase : base ≤ 16) (h : n < base) :
    digit? base n.digitChar = some n := by
  have hall : ∀ n < 16, digitValue? n.digitChar = some n := by decide
  rw [digit?, hall n (by omega), Option.filter_some, if_pos (decide_eq_true h)]

theorem isDigit_of_digit? {c : Char} (h : digit? 10 c = some n) : c.isDigit = true := by
  obtain ⟨hvalue, hlt⟩ := Option.filter_eq_some_iff.mp h
  have hlt : n < 10 := of_decide_eq_true hlt
  rw [digitValue?] at hvalue
  split at hvalue
  · next hrange => exact Char.isDigit_iff_toNat.mpr hrange
  · split at hvalue
    · cases hvalue
      omega
    · split at hvalue
      · cases hvalue
        omega
      · cases hvalue

/-- **The digits of a number are read as that number.** -/
theorem mapM_digit?_toDigits (hone : 1 < base) (hbase : base ≤ 16) (n : Nat) :
    ∃ digits, (Nat.toDigits base n).mapM (digit? base) = some digits ∧
      ofDigits base digits = n := by
  induction n using Nat.strongRecOn with
  | ind n ih =>
    rw [Nat.toDigits_eq_if hone]
    split
    · next hlt =>
      refine ⟨[n], ?_, by simp [ofDigits]⟩
      rw [List.mapM_cons, digit?_digitChar hbase hlt]
      rfl
    · next hge =>
      obtain ⟨digits, hdigits, hvalue⟩ := ih (n / base) (Nat.div_lt_self (by omega) hone)
      have hlast : digit? base (n % base).digitChar = some (n % base) :=
        digit?_digitChar hbase (Nat.mod_lt n (by omega))
      refine ⟨digits ++ [n % base], ?_, ?_⟩
      · rw [List.mapM_append, hdigits, List.mapM_cons, hlast]
        rfl
      · rw [ofDigits_concat, hvalue, Nat.mul_comm, Nat.div_add_mod]

theorem exists_digit?_of_mem_toDigits (hone : 1 < base) (hbase : base ≤ 16) {c : Char}
    (h : c ∈ Nat.toDigits base n) : ∃ d, digit? base c = some d := by
  obtain ⟨digits, hdigits, -⟩ := mapM_digit?_toDigits hone hbase n
  exact exists_of_mem_of_mapM hdigits h

theorem numeral?_toDigits (hone : 1 < base) (hbase : base ≤ 16) (n : Nat) :
    numeral? base (Nat.toDigits base n) = some n := by
  obtain ⟨digits, hdigits, hvalue⟩ := mapM_digit?_toDigits hone hbase n
  rw [numeral?, List.isEmpty_eq_false_iff.mpr Nat.toDigits_ne_nil, hdigits, Option.map_some, hvalue]
  rfl

end

end Text

end FeedReader
