import FeedReader.Remote.Page
import FeedReader.Remote.Request
import FeedReader.Remote.Retry

/-!
# Calling the server

A call of the server is sent as a request, repeated if need be, and its answer is read. A page is
a list of stories. A change is answered by a record that says whether it was made: **only `ok`
confirms it**.

The network is a function: it answers each attempt at a request by what it knows, and knows more
afterwards. Nothing is assumed of it.
-/

namespace FeedReader.Remote

/-- What carries requests to the server and brings back what becomes of them. -/
abbrev Network (σ : Type) := HttpRequest → σ → Attempt × σ

/-- Sends a call, and repeats it if need be. -/
def Server.send {σ : Type} (s : Server) (network : Network σ) (call : Call) (known : σ) :
    Exchange σ :=
  match s.request call with
  | .error e => { result := .error e, waits := [], server := known }
  | .ok request =>
    if request.cookie.all isSendable then exchange (network request) s.options known
    else { result := .error (.network .unsendable), waits := [], server := known }

/-- The stories that the answer to a fetch brings. -/
def pageOfAnswer (answer : Except FetchError (List UInt8)) : Except FetchError (List Story) := do
  match stories? (← answer) with
  | some stories => .ok stories
  | none => .error (.malformed "not a page of stories")

/-- What the server says about a change, and why. -/
def changeReply? (body : List UInt8) : Option (Option String × Option String) := do
  match ← (← Json.Value.ofBytes? body).fields? ["result", "message"] with
  | [result, message] =>
    pure (← result.optional Json.Value.text?, ← message.optional Json.Value.text?)
  | _ => none

/-- Whether the server has made a change. -/
def confirmationOfAnswer (answer : Except FetchError (List UInt8)) : Except FetchError Unit := do
  match changeReply? (← answer) with
  | none => .error (.malformed "not a reply to a change")
  | some (some result, _) => if result = "ok" then .ok () else .error (.rejected result)
  | some (none, message) => .error (.rejected (message.getD "no result field"))

/-- Carries out a request of the loader. -/
def Server.complete {σ : Type} (s : Server) (network : Network σ) (request : FeedReader.Request)
    (known : σ) : Completion × σ :=
  let exchange := s.send network request.call known
  match request with
  | .page ticket => (.page ticket (pageOfAnswer exchange.result), exchange.server)
  | .flag number _ => (.flag number (confirmationOfAnswer exchange.result), exchange.server)

end FeedReader.Remote
