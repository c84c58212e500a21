import FeedReader.Paging.Request
import FeedReader.Remote.Server
import FeedReader.Url.Percent

/-!
# Requests as they are sent

Each call of the server is a request for one of its resources. Pages are fetched, and **everything
that changes something is posted as a form**. All resources lie in the directory that the URL of
the server leads to.
-/

namespace FeedReader.Remote

/-- A request as it is sent. -/
structure HttpRequest where
  url : Url
  cookie : Option String
  /-- The form that is posted. A request without a form fetches. -/
  form : Option String
deriving DecidableEq, Repr

/-- The name of the cookie that carries the session. -/
def sessionCookie : String := "newsblur_sessionid"

namespace Server

/-- The URL of a resource of the server. The path begins in the directory of the server. -/
def resource (s : Server) (path : String) : Except FetchError Url :=
  (s.url.join path).mapError fun e => .invalidServer e.message

/-- The cookie that is sent along. -/
def cookie (s : Server) : Option String := s.session.map (sessionCookie ++ "=" ++ ·)

/-- The URL of a page. -/
def pageUrl (s : Server) (source : Source) (page : Nat) : Except FetchError Url := do
  match source with
  | .feed id =>
    let url ← s.resource ("reader/feed/" ++ toString id)
    pure { url with query := some (Url.form [("page", toString page)]) }
  | .river ids =>
    let url ← s.resource "reader/river_stories"
    let feeds := ids.map fun id => ("feeds", toString id)
    pure { url with query := some (Url.form (feeds ++ [("page", toString page)])) }

/-- The name of the resource that changes a flag of a story. -/
def changeName : FlagChange → String
  | .markRead | .markAllRead => "mark_story_hashes_as_read"
  | .markUnread => "mark_story_hash_as_unread"
  | .save => "mark_story_hash_as_starred"
  | .unsave => "mark_story_hash_as_unstarred"

/-- The request for a call. -/
def request (s : Server) : Call → Except FetchError HttpRequest
  | .fetch context page => do
    pure { url := ← s.pageUrl context.source page, cookie := s.cookie, form := none }
  | .mark change id => do
    pure {
      url := ← s.resource ("reader/" ++ changeName change)
      cookie := s.cookie
      form := some (Url.form [("story_hash", id.text)]) }
  | .markContextRead context => do
    pure {
      url := ← s.resource "reader/mark_feed_as_read"
      cookie := s.cookie
      form := some (Url.form (context.source.feeds.map fun id => ("feed_id", toString id))) }

end Server

/-- Whether a text can be sent as a cookie: it has no control characters except tabs. -/
def isSendable (cookie : String) : Bool :=
  cookie.toList.all fun c => c == '\t' || (0x20 ≤ c.toNat && c.toNat != 0x7f)

end FeedReader.Remote
