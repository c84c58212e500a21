import FeedReader.Remote.Error
import FeedReader.Story.Context
import FeedReader.Story.Flag

/-!
# Requests and their completions

The loader asks the server for pages and for flag changes, and goes on without waiting. Each
request that it has issued is *completed* at some later time, and the completions come in
any order. What ties a completion to its request is

* for a page, the **ticket**: what was asked for, and in which generation of the stream,
* for a flag change, its **number**, counted from zero.
-/

namespace FeedReader

/-- What identifies a request for a page. -/
structure Ticket where
  /-- How often the loader had been reset when the request was issued. -/
  generation : Nat
  context : Context
  /-- The number of the page, counted from one. -/
  page : Nat
deriving DecidableEq, Repr

/-- A call of the server. -/
inductive Call
  | fetch (context : Context) (page : Nat)
  /-- A change of a flag of one story. -/
  | mark (change : FlagChange) (id : StoryId)
  | markContextRead (context : Context)
deriving DecidableEq, Repr

/-- A request that the loader has issued. -/
inductive Request
  | page (ticket : Ticket)
  | flag (number : Nat) (call : Call)
deriving DecidableEq, Repr

/-- The call of the server that a request makes. -/
def Request.call : Request → Call
  | page ticket => .fetch ticket.context ticket.page
  | flag _ call => call

/-- A request has come to its end. -/
inductive Completion
  | page (ticket : Ticket) (result : Except FetchError (List Story))
  | flag (number : Nat) (result : Except FetchError Unit)

/-- A flag change that the server has neither confirmed nor refused yet. -/
structure PendingChange where
  number : Nat
  generation : Nat
  change : FlagChange
  /-- The stories that were changed, each with the value of the flag before. -/
  targets : List (StoryId × Bool)
deriving DecidableEq, Repr

end FeedReader
