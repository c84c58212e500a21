/-!
# How far a stream has been fetched

A stream is fetched a page at a time. It is *idle*, or a page is being *fetched*, or it
is *finished* because the server has no more pages:

* an idle stream begins to fetch,
* a fetch that succeeds counts one page and leaves the stream idle or finished,
* a fetch that fails leaves it idle, with the same page to be fetched next.

**A stream is never fetching and finished at once**, and its page number only grows until
it is started over.
-/

namespace FeedReader

/-- How far a stream has been fetched. -/
structure FetchState where
  fetching : Bool := false
  finished : Bool := false
  /-- The number of pages that have arrived. -/
  page : Nat := 0
  /-- Whether the server could be reached when it was last asked for the first page. -/
  online : Bool := true
deriving DecidableEq, Repr

namespace FetchState

/-- Whether a page may be requested. -/
def isIdle (s : FetchState) : Bool := !s.fetching && !s.finished

/-- The state in which the next page is being fetched, if the stream is idle. -/
def begin? (s : FetchState) : Option FetchState :=
  if s.isIdle then some { s with fetching := true } else none

/-- A page has arrived; `finished` says that it was the last one. -/
def complete (s : FetchState) (finished : Bool) : FetchState :=
  { s with fetching := false, page := s.page + 1, finished }

/-- The page that was being fetched did not arrive. -/
def fail (s : FetchState) : FetchState := { s with fetching := false }

def setOnline (s : FetchState) (online : Bool) : FetchState := { s with online }

/-- The state of a stream of which nothing has been asked yet. -/
def start : FetchState := {}

end FetchState

end FeedReader
