import FeedReader.Paging.Loader

/-!
# When a page arrives

A page that arrives in time is *merged*: its stories go to the cache and into the collection.
The first page makes the list of the cache, later ones add to it; and the first page replaces
what the collection holds of the cache.

The server may have written the page before it heard of a flag change. **A change that is
still pending is therefore put on top of what the page says**, in the order in which the
changes were made.

A page is the last one when it is not full, and also when it brings no story that is new:
a server that repeats itself would be asked forever.
-/

namespace FeedReader

namespace Loader

/-- Puts a pending change on top of what the collection holds. -/
def reapply (c : Collection) (pending : PendingChange) : Collection :=
  pending.targets.foldl (fun c target => c.modify target.1 pending.change.apply) c

/-- Puts all pending changes of the current generation on top of what the collection holds. -/
def reapplyAll (l : Loader) : Loader :=
  let current := l.pendingChanges.filter (fun p => p.generation = l.generation)
  { l with collection := current.foldl reapply l.collection }

/-- Hands the stories of a page to the cache. -/
def cachePage (l : Loader) (page : Nat) (stories : List Story) : Loader :=
  let attempt :=
    if page = 1 then l.cache.replace l.context stories else l.cache.save l.context stories
  { l with cache := l.cache.afterAttempt attempt }

/-- Takes the stories of a page into the collection, or makes them the collection if it holds
what the cache has kept and the page is the first. Returns the stories that are new. -/
def takePage (l : Loader) (page : Nat) (stories : List Story) : Loader × List Story :=
  if page = 1 && l.seeded then
    let (collection, added) := l.collection.replaceAll stories
    ({ l with collection, seeded := false }, added)
  else
    let (collection, added) := l.collection.append stories
    ({ l with collection }, added)

/-- Merges a page that arrived. -/
def mergePage (l : Loader) (page : Nat) (stories : List Story) : Loader × PageOutcome :=
  let replacing := page = 1 && l.seeded
  let (taken, added) := (l.cachePage page stories).takePage page stories
  let merged := taken.reapplyAll
  let reported :=
    if replacing then merged.emit (.replaced merged.collection.stories)
    else merged.announceAdded added
  let finished := stories.length < l.pageSize || added.isEmpty
  let fetch := (reported.fetch.complete finished).setOnline true
  ({ reported with fetch }.announce, .loaded added.length finished)

/-- A page did not arrive. If it was the first one and the server could not be reached, the
reader goes offline and shows what the cache has kept. -/
def failPage (l : Loader) (page : Nat) (cause : FetchError) : Loader × PagingError :=
  let failed := { l with fetch := l.fetch.fail }
  let settled :=
    if page = 1 && cause.isConnectivity then
      { failed with fetch := failed.fetch.setOnline false }.loadOffline.1
    else failed
  let error := .pageFailed page cause
  (settled.announce.emit (.error error), error)

/-- Whether a page with this ticket belongs to the stream as it is now. -/
def expects (l : Loader) (ticket : Ticket) : Bool :=
  ticket.generation = l.generation && ticket.context.sameStream l.context && l.fetch.fetching

/-- Applies the result of a request for a page. -/
def applyPage (l : Loader) (ticket : Ticket) (result : Except FetchError (List Story)) :
    Loader × Except PagingError PageOutcome :=
  if l.expects ticket then
    match result with
    | .ok stories =>
      let (merged, outcome) := l.mergePage ticket.page stories
      (merged, .ok outcome)
    | .error cause =>
      let (failed, error) := l.failPage ticket.page cause
      (failed, .error error)
  else (l, .ok .discarded)

end Loader

end FeedReader
