/-!
# What can go wrong when the server is asked

Each request ends in an answer or in one of these errors. Some of them mean that the
server was **not reached at all**, as opposed to having answered badly: only these make
the reader fall back to the stories that it has kept offline.
-/

namespace FeedReader

/-- Why a request got no usable answer from the network. -/
inductive NetworkFault
  /-- The connection could not be made, or broke before an answer began. -/
  | unreachable (url : String)
  /-- The request could not be written down, so nothing was sent. -/
  | unsendable
  /-- The answer began and then broke off. -/
  | brokenOff
deriving DecidableEq, Repr

/-- Why a request failed. -/
inductive FetchError
  | network (fault : NetworkFault)
  /-- The server answered with a status other than success. -/
  | status (code : Nat)
  | timeout
  /-- The server still asked to slow down after this many repetitions. -/
  | rateLimited (retries : Nat)
  | tooLarge
  /-- Fewer bytes arrived than the server had announced. -/
  | incomplete (expected received : Nat)
  /-- The answer does not have the expected shape. -/
  | malformed (detail : String)
  /-- The server understood the request and refused it. -/
  | rejected (reason : String)
  | invalidServer (reason : String)
  /-- The task that made the request came to a sudden end. -/
  | aborted (reason : String)
deriving DecidableEq, Repr

namespace NetworkFault

def message : NetworkFault → String
  | unreachable url => s!"error sending request for url ({url})"
  | unsendable => "builder error"
  | brokenOff => "request or response body error"

/-- Whether the server was not reached at all. -/
def isConnectivity : NetworkFault → Bool
  | unreachable _ => true
  | unsendable | brokenOff => false

end NetworkFault

namespace FetchError

/-- What the user is told. -/
def message : FetchError → String
  | network fault => s!"Request failed: {fault.message}"
  | status code => s!"HTTP error: status {code}"
  | timeout => "Request timed out"
  | rateLimited retries => s!"Rate limited after {retries} retries"
  | tooLarge => "Response too large"
  | incomplete expected received =>
    s!"Incomplete response: expected {expected} bytes, received {received}"
  | malformed detail => s!"Malformed response: {detail}"
  | rejected reason => s!"Server rejected request: {reason}"
  | invalidServer reason => s!"Invalid server URL: {reason}"
  | aborted reason => s!"Request task failed: {reason}"

/-- Whether the server was not reached at all. -/
def isConnectivity : FetchError → Bool
  | network fault => fault.isConnectivity
  | timeout => true
  | _ => false

end FetchError

end FeedReader
