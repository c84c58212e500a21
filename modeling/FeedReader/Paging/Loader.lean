import FeedReader.Cache.Offline
import FeedReader.Paging.Event
import FeedReader.Story.Collection

/-!
# The loader

A loader delivers the stories of one stream a page at a time. Its state is a plain value:
what it holds of the stream, the requests that it waits for, its cache, and the record of
what it has reported and asked for. **Every operation is a function of this state**, and no
operation waits.

A stream begins with a *reset*, which starts a new generation. Whatever was asked for before
is not forgotten, so that its completion can be told apart, but it belongs to an earlier
generation from then on.

At the beginning of a stream the stories may come from the offline cache. The loader then is
**seeded**: what it holds has not been confirmed by the server, and the first page will
replace it.
-/

namespace FeedReader

/-- A loader of the stories of one stream. -/
structure Loader where
  /-- The number of stories on a full page. -/
  pageSize : Nat
  context : Context
  fetch : FetchState := {}
  collection : Collection := {}
  /-- How often the loader has been reset. -/
  generation : Nat := 0
  /-- The collection holds stories from the cache that no page has replaced yet. -/
  seeded : Bool := false
  /-- The requests for pages that have not been completed, those of earlier generations
  included. -/
  pendingPages : List Ticket := []
  /-- The flag changes that have not been completed, in the order of their numbers. -/
  pendingChanges : List PendingChange := []
  /-- The number of the next flag change. -/
  nextNumber : Nat := 0
  cache : Cache := {}
  /-- What has been reported, in order. -/
  events : List Event := []
  /-- What the server has been asked for, in order. -/
  requests : List Request := []
deriving DecidableEq, Repr

namespace Loader

/-- The number of stories that the server puts on a page unless it is told otherwise. -/
def standardPageSize : Nat := 12

/-- A loader that has not begun. A page holds one story at least. -/
def new (context : Context) (cache : Cache) (pageSize : Nat) : Loader where
  pageSize := max 1 pageSize
  context := context
  cache := cache

/-! ### What can be seen of a loader -/

/-- The number of requests that have not been completed. -/
def inFlight (l : Loader) : Nat := l.pendingPages.length + l.pendingChanges.length

/-- The stories that are shown at the level of the context. -/
def visible (l : Loader) : List Story := l.collection.visible l.context.level

/-- The story that is shown in a row, counted from zero. -/
def storyAtRow? (l : Loader) (row : Nat) : Option Story := l.visible[row]?

def unreadCount (l : Loader) : Nat := l.collection.unreadCount l.context.level

/-- Why a page would not be asked for now, if it would not. -/
def skipReason? (l : Loader) : Option SkipReason :=
  if l.fetch.fetching then some .fetching
  else if l.fetch.finished then some .finished
  else none

/-! ### Reporting -/

def emit (l : Loader) (event : Event) : Loader := { l with events := l.events ++ [event] }

/-- Reports how far the stream has been fetched. -/
def announce (l : Loader) : Loader := l.emit (.fetchState l.fetch)

/-- Reports the stories that were added, if there are any. -/
def announceAdded (l : Loader) (added : List Story) : Loader :=
  if added.isEmpty then l else l.emit (.added added)

/-- Puts a request on record. -/
def issue (l : Loader) (request : Request) : Loader :=
  { l with requests := l.requests ++ [request] }

/-! ### Beginning a stream -/

/-- Whether the stories of the cache may still enter the collection: once the server has sent a
page, they may not. -/
def takesOffline (l : Loader) : Bool := !l.fetch.online || l.fetch.page == 0

/-- Takes the stories of the cache into the collection, and returns how many of them are new.
A cache that fails counts as an empty one. -/
def loadOffline (l : Loader) : Loader × Nat :=
  if l.takesOffline then
    match l.cache.load l.context with
    | .error _ => (l, 0)
    | .ok cached =>
      let (collection, added) := l.collection.append cached
      let seeded := l.seeded || !added.isEmpty
      ({ l with collection, seeded }.announceAdded added, added.length)
  else (l, 0)

/-- Leaves the stream for another one, or begins it again. -/
def reset (l : Loader) (context : Context) : Loader :=
  let begun :=
    { l with
      context
      fetch := .start
      collection := {}
      generation := l.generation + 1
      seeded := false }
  begun.loadOffline.1.announce

/-- Changes what is shown of the stream. -/
def changeLevel (l : Loader) (level : Level) : Loader :=
  { l with context := { l.context with level } }.emit (.level level)

/-! ### Asking for a page -/

/-- The ticket for the next page. -/
def nextTicket (l : Loader) : Ticket where
  generation := l.generation
  context := l.context
  page := l.fetch.page + 1

/-- Asks for the next page, unless one is being fetched or the last one has been. -/
def requestPage (l : Loader) : Loader × Option Ticket :=
  match l.fetch.begin? with
  | none => (l, none)
  | some fetch =>
    let ticket := l.nextTicket
    let asked := { l with fetch, pendingPages := l.pendingPages ++ [ticket] }
    ((asked.issue (.page ticket)).announce, some ticket)

end Loader

end FeedReader
