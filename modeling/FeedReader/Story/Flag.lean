import FeedReader.Story.Basic

/-!
# Flags and the changes made to them

A story has two flags. A *flag change* is what the user asks for: it moves one flag of
one story, or the read flag of every loaded story, to a target value. **Each change is
determined by the flag it concerns and the value it aims at**; the five changes differ
from the pairs of these only in that one of them speaks of all stories at once.
-/

namespace FeedReader

/-- One of the two marks that the user can set on a story. -/
inductive Flag
  | read
  | saved
deriving DecidableEq, Repr

namespace Flag

def get : Flag → Story → Bool
  | read, story => story.read
  | saved, story => story.saved

/-- The story with this flag set to the given value, and otherwise unchanged. -/
def set : Flag → Bool → Story → Story
  | read, value, story => { story with read := value }
  | saved, value, story => { story with saved := value }

theorem id_set (flag : Flag) (value : Bool) (story : Story) :
    (flag.set value story).id = story.id := by
  cases flag <;> rfl

end Flag

/-- A change that the user makes and that the server is asked to confirm. -/
inductive FlagChange
  | markRead
  | markUnread
  | save
  | unsave
  /-- Concerns every story of the stream. -/
  | markAllRead
deriving DecidableEq, Repr

namespace FlagChange

/-- The flag that is changed. -/
def flag : FlagChange → Flag
  | markRead | markUnread | markAllRead => .read
  | save | unsave => .saved

/-- The value that the flag is moved to. -/
def target : FlagChange → Bool
  | markRead | save | markAllRead => true
  | markUnread | unsave => false

/-- The change as messages to the user name it. -/
def name : FlagChange → String
  | markRead => "mark as read"
  | markUnread => "mark as unread"
  | save => "save"
  | unsave => "unsave"
  | markAllRead => "mark all as read"

/-- The value that the story has where the change would set it. -/
def get (change : FlagChange) (story : Story) : Bool := change.flag.get story

/-- The story with the changed flag at the given value. -/
def set (change : FlagChange) (value : Bool) (story : Story) : Story :=
  change.flag.set value story

/-- The story as the change wants it. -/
def apply (change : FlagChange) (story : Story) : Story := change.set change.target story

end FlagChange

end FeedReader
