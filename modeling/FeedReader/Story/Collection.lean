import FeedReader.Story.Level

/-!
# Collections of stories

A collection is the list of stories that one stream has delivered so far. **It keeps the
order of arrival and holds each story once**: a story that arrives again replaces the
copy that is held, in the place where it stands, and a story that is new goes to the end.
Since nothing moves and new stories are added at the end only, the new stories of a batch
are the tail that the batch leaves behind.
-/

namespace FeedReader

/-- The stories of one stream, in order of arrival. -/
structure Collection where
  stories : List Story := []
deriving DecidableEq, Repr

namespace Collection

/-- Puts a story in the place of the copy with its id, or at the end if there is none. -/
def place (story : Story) : List Story → List Story
  | [] => [story]
  | held :: rest => if held.id = story.id then story :: rest else held :: place story rest

def size (c : Collection) : Nat := c.stories.length

def isEmpty (c : Collection) : Bool := c.stories.isEmpty

/-- The ids of the stories, in their order. -/
def ids (c : Collection) : List StoryId := c.stories.map Story.id

def find? (c : Collection) (id : StoryId) : Option Story :=
  c.stories.find? (fun story => story.id = id)

def contains (c : Collection) (id : StoryId) : Bool :=
  c.stories.any (fun story => story.id = id)

/-- The number of stories before the one with this id. -/
def position? (c : Collection) (id : StoryId) : Option Nat :=
  c.stories.findIdx? (fun story => story.id = id)

/-- Changes the story with this id, if it is there. -/
def modify (c : Collection) (id : StoryId) (f : Story → Story) : Collection :=
  ⟨c.stories.map (fun story => if story.id = id then f story else story)⟩

/-- Adds a story, or replaces the copy of it that is held. -/
def insert (c : Collection) (story : Story) : Collection := ⟨place story c.stories⟩

/-- The collection after a batch of stories has arrived. -/
def merge (c : Collection) (batch : List Story) : Collection := batch.foldl insert c

/-- Takes a batch in, and returns the stories of it that were not held before, in order of
arrival. Of a story that the batch brings more than once, the last copy is the one that
stays and is returned. -/
def append (c : Collection) (batch : List Story) : Collection × List Story :=
  let merged := c.merge batch
  (merged, merged.stories.drop c.size)

/-- Starts over with a batch of stories. -/
def replaceAll (_ : Collection) (batch : List Story) : Collection × List Story :=
  append {} batch

/-- The stories that are shown at this level. -/
def visible (c : Collection) (level : Level) : List Story :=
  c.stories.filter (fun story => story.isVisibleAt level)

/-- The number of stories shown at this level that have not been read. -/
def unreadCount (c : Collection) (level : Level) : Nat :=
  (c.visible level).countP (fun story => !story.read)

end Collection

end FeedReader
