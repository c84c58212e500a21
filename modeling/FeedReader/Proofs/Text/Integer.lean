import FeedReader.Text.Basic
import FeedReader.Text.Numeral
import Mathlib.Data.List.Forall2

/-!
# Numerals are read

A decimal numeral may have zeros before it, and a sign, and blanks around it. **It is read as the
number that it is written for** (`FeedReader.Text.int64?_trim_of_numeral`), as long as that fits a
word.
-/

namespace FeedReader

/-- A list is read if each of its items is. -/
theorem mapM_of_forall₂ {α β : Type} {read : α → Option β} {items : List α} {values : List β}
    (h : List.Forall₂ (fun item value => read item = some value) items values) :
    items.mapM read = some values := by
  induction h with
  | nil => rfl
  | cons hfirst _ ih =>
    rw [List.mapM_cons, hfirst, ih]
    rfl

theorem mapM_of_forall {α β : Type} {read : α → Option β} {value : α → β} {items : List α}
    (h : ∀ item ∈ items, read item = some (value item)) :
    items.mapM read = some (items.map value) :=
  mapM_of_forall₂ (List.forall₂_map_right_iff.mpr (List.forall₂_same.mpr h))

/-- What is written item by item is read as what it was written for. -/
theorem mapM_map_of_forall {α β : Type} {read : α → Option β} {write : β → α} {values : List β}
    (h : ∀ value ∈ values, read (write value) = some value) :
    (values.map write).mapM read = some values :=
  mapM_of_forall₂ (List.forall₂_map_left_iff.mpr (List.forall₂_same.mpr h))

/-- Each item has been read if the whole list has. -/
theorem forall₂_of_mapM {α β : Type} {read : α → Option β} {items : List α} {values : List β}
    (h : items.mapM read = some values) :
    List.Forall₂ (fun item value => read item = some value) items values := by
  induction items generalizing values with
  | nil =>
    obtain rfl : values = [] := by simpa using h.symm
    exact .nil
  | cons item items ih =>
    rw [List.mapM_cons] at h
    obtain ⟨value, hvalue, h⟩ := Option.bind_eq_some_iff.mp h
    obtain ⟨rest, hrest, h⟩ := Option.bind_eq_some_iff.mp h
    obtain rfl : value :: rest = values := Option.some.inj h
    exact .cons hvalue (ih hrest)

/-- What has been read from a list was read from one of its items. -/
theorem exists_mem_of_mem_mapM {α β : Type} {read : α → Option β} {items : List α}
    {values : List β} (h : items.mapM read = some values) {value : β} (hvalue : value ∈ values) :
    ∃ item ∈ items, read item = some value := by
  induction forall₂_of_mapM h with
  | nil => cases hvalue
  | @cons item first items rest hfirst hrest ih =>
    rcases List.mem_cons.mp hvalue with rfl | hvalue
    · exact ⟨item, List.mem_cons_self, hfirst⟩
    · obtain ⟨item', hitem', hread⟩ := ih (mapM_of_forall₂ hrest) hvalue
      exact ⟨item', List.mem_cons_of_mem _ hitem', hread⟩

/-- Every item of a list that has been read has been read. -/
theorem exists_of_mem_of_mapM {α β : Type} {read : α → Option β} {items : List α}
    {values : List β} (h : items.mapM read = some values) {item : α} (hitem : item ∈ items) :
    ∃ value, read item = some value := by
  induction forall₂_of_mapM h with
  | nil => cases hitem
  | @cons first value items rest hfirst hrest ih =>
    rcases List.mem_cons.mp hitem with rfl | hitem
    · exact ⟨value, hfirst⟩
    · exact ih (mapM_of_forall₂ hrest) hitem

namespace Text

/-! ### Digits -/

theorem digit?_of_isDigit {c : Char} (h : c.isDigit = true) :
    digit? 10 c = some (c.toNat - '0'.toNat) := by
  have hrange : 48 ≤ c.toNat ∧ c.toNat ≤ 57 := Char.isDigit_iff_toNat.mp h
  have hle : '0' ≤ c ∧ c ≤ '9' := hrange
  have hlt : c.toNat - '0'.toNat < 10 := by
    change c.toNat - 48 < 10
    omega
  rw [digit?, digitValue?, if_pos hle, Option.filter_some, decide_eq_true hlt, if_pos rfl]

/-- Digits are read as the number that they spell. -/
theorem numeral?_of_digits {cs : List Char} (hne : cs ≠ []) (h : ∀ c ∈ cs, c.isDigit = true) :
    numeral? 10 cs = some (Nat.ofDigitChars 10 cs 0) := by
  have hvalues : cs.mapM (digit? 10) = some (cs.map fun c => c.toNat - '0'.toNat) :=
    mapM_of_forall fun c hc => digit?_of_isDigit (h c hc)
  rw [numeral?, List.isEmpty_eq_false_iff.mpr hne, hvalues, Option.map_some, ofDigits,
    List.foldl_map, Nat.ofDigitChars_eq_foldl]
  simp only [Nat.mul_comm, Bool.false_eq_true, if_false]

/-- The digits of a number, with zeros before them. -/
def zeroPadded (zeros n : Nat) : List Char := List.replicate zeros '0' ++ Nat.toDigits 10 n

theorem isDigit_of_mem_zeroPadded {zeros n : Nat} {c : Char} (h : c ∈ zeroPadded zeros n) :
    c.isDigit = true := by
  rcases List.mem_append.mp h with hzero | hdigit
  · rw [List.eq_of_mem_replicate hzero]
    rfl
  · exact Nat.isDigit_of_mem_toDigits (by decide) (by decide) hdigit

theorem zeroPadded_ne_nil (zeros n : Nat) : zeroPadded zeros n ≠ [] :=
  List.append_ne_nil_of_right_ne_nil _ Nat.toDigits_ne_nil

theorem numeral?_zeroPadded (zeros n : Nat) : numeral? 10 (zeroPadded zeros n) = some n := by
  rw [numeral?_of_digits (zeroPadded_ne_nil zeros n) fun _ => isDigit_of_mem_zeroPadded, zeroPadded,
    Nat.ofDigitChars_append, Nat.ofDigitChars_replicate_zero, Nat.mul_zero,
    Nat.ofDigitChars_ten_toDigits]

/-! ### Signs -/

/-- The spellings of an integer as a numeral. -/
inductive NumeralSpelling : Int → List Char → Prop
  | plain (zeros n : Nat) : NumeralSpelling n (zeroPadded zeros n)
  | plus (zeros n : Nat) : NumeralSpelling n ('+' :: zeroPadded zeros n)
  | minus (zeros n : Nat) : NumeralSpelling (-n) ('-' :: zeroPadded zeros n)

/-- **A numeral is read as its number**, if the number fits a word. -/
theorem int64?_of_numeral {n : Int} {cs : List Char} (h : NumeralSpelling n cs)
    (hfits : isInt64 n = true) : int64? cs = some n := by
  cases h with
  | plain zeros n =>
    obtain ⟨c, cs, hcs⟩ := List.exists_cons_of_ne_nil (zeroPadded_ne_nil zeros n)
    have hdigit : c.isDigit = true :=
      isDigit_of_mem_zeroPadded (hcs ▸ List.mem_cons_self)
    have hnumeral := numeral?_zeroPadded zeros n
    rw [hcs] at hnumeral ⊢
    rw [int64?, hnumeral]
    · exact (Option.filter_some ..).trans (if_pos hfits)
    · rintro digits ⟨⟩
      cases hdigit
    · rintro digits ⟨⟩
      cases hdigit
  | plus zeros n =>
    simp only [int64?, numeral?_zeroPadded]
    exact (Option.filter_some ..).trans (if_pos hfits)
  | minus zeros n =>
    simp only [int64?, numeral?_zeroPadded]
    exact (Option.filter_some ..).trans (if_pos hfits)

/-! ### Blanks -/

theorem not_isBlank_of_isDigit {c : Char} (h : c.isDigit = true) : isBlank c = false := by
  have hall : ∀ n ≤ 57, 48 ≤ n → isBlank (Char.ofNat n) = false := by decide
  have hrange : 48 ≤ c.toNat ∧ c.toNat ≤ 57 := Char.isDigit_iff_toNat.mp h
  rw [← Char.ofNat_toNat c]
  exact hall c.toNat hrange.2 hrange.1

/-- A numeral has characters, and none of them is a blank. -/
theorem NumeralSpelling.not_isBlank {n : Int} {cs : List Char} (h : NumeralSpelling n cs) :
    cs ≠ [] ∧ ∀ c ∈ cs, isBlank c = false := by
  have hdigits : ∀ zeros n, ∀ c ∈ zeroPadded zeros n, isBlank c = false := fun zeros n c hc =>
    not_isBlank_of_isDigit (isDigit_of_mem_zeroPadded hc)
  cases h with
  | plain zeros n => exact ⟨zeroPadded_ne_nil zeros n, hdigits zeros n⟩
  | plus zeros n => exact ⟨List.cons_ne_nil _ _, List.forall_mem_cons.mpr ⟨rfl, hdigits zeros n⟩⟩
  | minus zeros n => exact ⟨List.cons_ne_nil _ _, List.forall_mem_cons.mpr ⟨rfl, hdigits zeros n⟩⟩

theorem dropWhile_blanks {blanks cs : List Char} (hblanks : ∀ c ∈ blanks, isBlank c = true)
    (hcs : ∀ c ∈ cs.head?, isBlank c = false) : (blanks ++ cs).dropWhile isBlank = cs := by
  rw [List.dropWhile_append_of_pos hblanks]
  cases cs with
  | nil => rfl
  | cons c cs => rw [List.dropWhile_cons_of_neg (by simp [hcs c rfl])]

/-- Trimming takes away the blanks around what has none. -/
theorem trim_append_append {before cs after : List Char}
    (hbefore : ∀ c ∈ before, isBlank c = true) (hne : cs ≠ []) (hcs : ∀ c ∈ cs, isBlank c = false)
    (hafter : ∀ c ∈ after, isBlank c = true) : trim (before ++ cs ++ after) = cs := by
  have hfirst : ∀ c ∈ (cs ++ after).head?, isBlank c = false := fun c hc => by
    rw [List.head?_append_of_ne_nil _ hne] at hc
    exact hcs c (List.mem_of_mem_head? hc)
  have hlast : ∀ c ∈ cs.reverse.head?, isBlank c = false := fun c hc =>
    hcs c (List.mem_reverse.mp (List.mem_of_mem_head? hc))
  -- The second pass meets the text from its other end.
  rw [trim, List.append_assoc, dropWhile_blanks hbefore hfirst, List.reverse_append,
    dropWhile_blanks (fun c hc => hafter c (List.mem_reverse.mp hc)) hlast, List.reverse_reverse]

/-- **A numeral with blanks around it is read as its number**, if the number fits a word. -/
theorem int64?_trim_of_numeral {before cs after : List Char} {n : Int}
    (hbefore : ∀ c ∈ before, isBlank c = true) (h : NumeralSpelling n cs)
    (hafter : ∀ c ∈ after, isBlank c = true) (hfits : isInt64 n = true) :
    int64? (trim (before ++ cs ++ after)) = some n := by
  obtain ⟨hne, hcs⟩ := h.not_isBlank
  rw [trim_append_append hbefore hne hcs hafter, int64?_of_numeral h hfits]

end Text

end FeedReader
