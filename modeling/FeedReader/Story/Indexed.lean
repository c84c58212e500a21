import FeedReader.Story.Collection

/-!
# Collections with an index

A collection is asked for a story by its id again and again, and looking through the list each
time would be slow. An *indexed collection* keeps, beside the stories, an **index that says where
each of them stands**: a story is found, replaced and changed in the place that the index gives,
and the list is not looked through at all.

Stories and index are written one after the other, at each story that arrives, so nothing but the
operations themselves keeps the two in agreement. That they do, and that an indexed collection
therefore answers as a `FeedReader.Collection` does, is shown in
`FeedReader.Proofs.Story.Indexed`.
-/

namespace FeedReader

/-- The stories of one stream in order of arrival, and the place of each. -/
structure IndexedCollection where
  stories : List Story := []
  /-- The ids that have been entered, each with the number of stories before it. The latest entry
  of an id is the one that counts. -/
  index : List (StoryId × Nat) := []
deriving DecidableEq, Repr

namespace IndexedCollection

/-- The stories without the index. -/
def plain (c : IndexedCollection) : Collection := ⟨c.stories⟩

def size (c : IndexedCollection) : Nat := c.stories.length

/-- The ids of the stories, in their order. -/
def ids (c : IndexedCollection) : List StoryId := c.stories.map Story.id

/-- The number of stories before the one with this id. -/
def position? (c : IndexedCollection) (id : StoryId) : Option Nat := c.index.lookup id

def contains (c : IndexedCollection) (id : StoryId) : Bool := (c.position? id).isSome

def find? (c : IndexedCollection) (id : StoryId) : Option Story :=
  (c.position? id).bind fun i => c.stories[i]?

/-- Changes the story in the place of this id, if the id has one. -/
def modify (c : IndexedCollection) (id : StoryId) (f : Story → Story) : IndexedCollection :=
  match c.position? id with
  | some i => { c with stories := c.stories.modify i f }
  | none => c

/-- Puts a story in the place of its id, or enters the id and puts the story at the end. -/
def insert (c : IndexedCollection) (story : Story) : IndexedCollection :=
  match c.position? story.id with
  | some i => { c with stories := c.stories.set i story }
  | none => ⟨c.stories ++ [story], (story.id, c.size) :: c.index⟩

/-- One step of taking a batch in, which also notes the ids that were new. -/
def take (taken : IndexedCollection × List StoryId) (story : Story) :
    IndexedCollection × List StoryId :=
  (taken.1.insert story, if taken.1.contains story.id then taken.2 else taken.2 ++ [story.id])

/-- Takes a batch in, and returns the stories of it that were not held before, in order of arrival.
They are looked up when all have been taken, so that a story that the batch brings more than once
is returned as it is held in the end. -/
def append (c : IndexedCollection) (batch : List Story) : IndexedCollection × List Story :=
  let (taken, new) := batch.foldl take (c, [])
  (taken, new.filterMap taken.find?)

/-- Starts over with a batch of stories. -/
def replaceAll (_ : IndexedCollection) (batch : List Story) : IndexedCollection × List Story :=
  append {} batch

end IndexedCollection

end FeedReader
