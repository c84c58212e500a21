import FeedReader.Calendar
import FeedReader.Story.Level
import FeedReader.Text.Terminal
import FeedReader.Text.Truncate

/-!
# The listing

Stories are shown one to a line: a mark, the date and the title. **Nothing in a title can do
harm to the terminal**, and a long title is cut. Stories below the chosen level are left out.
-/

namespace FeedReader.Listing

/-- The columns for a title. -/
def titleWidth : Nat := 72

/-- The mark of a story: a star if it is saved, else a plus if it is unread. -/
def mark (story : Story) : Char :=
  if story.saved then '*' else if story.read then ' ' else '+'

/-- The title as it is shown. -/
def title (story : Story) : String :=
  String.ofList (Text.truncate (Text.printable story.title.toList) titleWidth)

/-- The line for a story. -/
def line (story : Story) : String :=
  String.singleton (mark story) ++ " " ++ Date.textOfSeconds story.published ++ " " ++ title story

/-- The lines for stories that are looked at on the given level. -/
def lines (level : Level) (stories : List Story) : List String :=
  (stories.filter (·.isVisibleAt level)).map line

end FeedReader.Listing
