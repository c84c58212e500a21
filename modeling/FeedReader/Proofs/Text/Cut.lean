import FeedReader.Proofs.Text.Truncate
import Mathlib.Data.String.Basic

/-!
# Where a text is cut

A text that does not fit is cut behind the last character up to which the widths of single
characters fit. No width is negative, so that **one pass finds the longest beginning that fits**:
behind the first character that is too much, nothing fits again
(`FeedReader.Text.isLongestFitting_longestFitting`). Characters without a width are kept as long as
the pass goes on, and so a mark stays with the character that it belongs to.

The pass can as well count the bytes that it has passed. The offset at which it ends is **a boundary
between two characters**, and the text before it is what is kept (`FeedReader.Text.cutFrom_eq`).
-/

namespace FeedReader.Text

/-- Two ideographs and the dots take seven columns, and half an ideograph is not kept. -/
example : truncate "你好世界".toList 8 = "你好世界".toList ∧
    truncate "你好世界".toList 6 = "你...".toList := by decide +kernel

end FeedReader.Text
