import FeedReader.Remote.Backoff
import FeedReader.Remote.Error
import FeedReader.Text.Quoted
import FeedReader.Url.Reference
import FeedReader.Url.Server

/-!
# The server

What the reader knows about the server that it asks: its URL, the session of the user, and how
patient to be. **The URL leads to a directory**, and what is asked for lies inside it. The session
is never shown.
-/

namespace FeedReader.Remote

/-- The server that the reader asks. -/
structure Server where
  url : Url
  /-- What tells the server who the user is. -/
  session : Option String
  options : Options
deriving DecidableEq, Repr

/-- The URL with a slash at the end of its path. -/
def asDirectory (url : Url) : Url :=
  let path := url.path.text.toList
  if path.getLast? = some '/' then url else url.withPath (path ++ ['/'])

/-- The server at a URL. Anybody may listen unless the connection is encrypted or stays in the
machine, so other URLs are refused. -/
def Server.ofUrl (url : String) (session : Option String) (options : Options) :
    Except FetchError Server :=
  match Url.server url with
  | .error e => .error (.invalidServer e.message)
  | .ok url => .ok { url := asDirectory url, session, options }

/-! ### Text -/

/-- What stands for a secret. -/
def redacted : String := Text.quoted "[REDACTED]"

/-- The server as it is shown to somebody who looks for a mistake. -/
def Server.summary (s : Server) : String :=
  "HttpTransport \x7b base_url: " ++ Text.quoted s.url.text ++ ", session: " ++
    Text.optional (fun _ => redacted) s.session ++ ", options: " ++ s.options.summary ++ " \x7d"

end FeedReader.Remote
