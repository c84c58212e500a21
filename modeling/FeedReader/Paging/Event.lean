import FeedReader.Paging.FetchState
import FeedReader.Paging.Request

/-!
# What the loader reports

The loader speaks to whoever presents the stories through *events*, and answers its caller
with *outcomes*. Both are plain values. Errors are reported in both ways: as an event when
they concern something that went on in the background, and as the outcome of the operation
or completion that met them.
-/

namespace FeedReader

/-- What can go wrong in paging. None of it makes the loader unusable. -/
inductive PagingError
  /-- A page did not arrive. It is asked for again next time. -/
  | pageFailed (page : Nat) (cause : FetchError)
  /-- The server did not accept a change, which has been taken back. A change of all stories
  names none. -/
  | changeFailed (story : Option StoryId) (change : FlagChange) (cause : FetchError)
  | unknownStory (id : StoryId)
deriving DecidableEq, Repr

/-- What the user is told. -/
def PagingError.message : PagingError → String
  | pageFailed page cause => s!"Failed to load page {page}: {cause.message}"
  | changeFailed _ change cause => s!"Failed to {change.name} on the server: {cause.message}"
  | unknownStory id => s!"Story {id.text} is not in the current collection"

/-- What is reported to the presenter. -/
inductive Event
  /-- Stories were appended to the end of the collection. -/
  | added (stories : List Story)
  /-- The collection was rebuilt and now holds these stories. -/
  | replaced (stories : List Story)
  | fetchState (state : FetchState)
  /-- A flag of the story changed. -/
  | changed (story : Story)
  | level (level : Level)
  | error (error : PagingError)
deriving DecidableEq, Repr

/-- Why a page is not asked for. -/
inductive SkipReason
  /-- A page of the stream is being fetched already. -/
  | fetching
  /-- The server has no more pages. -/
  | finished
deriving DecidableEq, Repr

/-- What became of a page. -/
inductive PageOutcome
  | skipped (reason : SkipReason)
  /-- The page was merged. `added` counts the stories that were not in the collection. -/
  | loaded (added : Nat) (finished : Bool)
  /-- The page belonged to a stream that the loader has left. -/
  | discarded
deriving DecidableEq, Repr

/-- What the completion of a request did. -/
inductive Applied
  /-- The completion belongs to no request that the loader waits for. -/
  | ignored
  | page (ticket : Ticket) (outcome : Except PagingError PageOutcome)
  | flag (change : FlagChange) (outcome : Except PagingError Unit)

end FeedReader
