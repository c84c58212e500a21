/-!
# Stories

A *story* is one item of a feed as the server describes it. Everything about it is
fixed once it has been fetched, except its two **flags**: whether it has been read and
whether it has been saved. The reader flips a flag at once and settles the change with
the server afterwards, so flags have a module of their own,
`FeedReader.Story.Flag`.
-/

namespace FeedReader

/-- The hash that the server gives a story. It is unique over all feeds, so a list that
mixes many feeds can still be keyed by it alone. -/
structure StoryId where
  text : String
deriving DecidableEq, Repr

/-- A story as it was fetched from the server or restored from the offline cache. -/
structure Story where
  id : StoryId
  feedId : Int
  title : String
  content : Option String := none
  permalink : Option String := none
  imageUrls : List String := []
  /-- Time of publication, in seconds since the beginning of 1970 (UTC). -/
  published : Int := 0
  /-- What the user's training makes of the story: negative is disliked, positive is liked. -/
  score : Int := 0
  read : Bool := false
  saved : Bool := false
deriving DecidableEq, Repr

end FeedReader
