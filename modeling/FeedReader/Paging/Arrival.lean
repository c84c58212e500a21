import FeedReader.Paging.Marking
import FeedReader.Paging.Merge

/-!
# Completions, and waiting for them

The completions of requests arrive one after another. Applying one is the only way in which
the answer of the server changes the loader, and **a completion that belongs to no pending
request changes nothing**.

What the loader waits for is given here as the list of the completions that are going to
arrive. An operation that waits takes them from the front of this list and leaves the rest.
-/

namespace FeedReader

namespace Loader

/-- Applies a completion. -/
def complete (l : Loader) : Completion → Loader × Applied
  | .page ticket result =>
    if ticket ∈ l.pendingPages then
      let resolved := { l with pendingPages := l.pendingPages.erase ticket }
      let (applied, outcome) := resolved.applyPage ticket result
      (applied, .page ticket outcome)
    else (l, .ignored)
  | .flag number result =>
    match l.pendingChanges.find? (fun p => p.number = number) with
    | none => (l, .ignored)
    | some pending =>
      let rest := l.pendingChanges.filter (fun p => p.number ≠ number)
      let (applied, outcome) := { l with pendingChanges := rest }.applyChange pending result
      (applied, .flag pending.change outcome)

/-- Applies the next completion that arrives, unless the loader waits for none. The result is
empty when nothing was applied. -/
def processNext (l : Loader) (arriving : List Completion) :
    Loader × Option Applied × List Completion :=
  match arriving with
  | [] => (l, none, [])
  | completion :: rest =>
    if l.inFlight = 0 then (l, none, completion :: rest)
    else
      let (applied, outcome) := l.complete completion
      (applied, some outcome, rest)

/-- Applies completions until the loader waits for none. Returns how many were applied. -/
def settle (l : Loader) (arriving : List Completion) : Loader × Nat × List Completion :=
  match arriving with
  | [] => (l, 0, [])
  | completion :: rest =>
    if l.inFlight = 0 then (l, 0, completion :: rest)
    else
      let (settled, count, left) := (l.complete completion).1.settle rest
      (settled, count + 1, left)

/-- Applies completions up to the one for this ticket, and returns what became of its page. The
outcome is empty if the completion is not among those that arrive. -/
def awaitPage (l : Loader) (ticket : Ticket) (arriving : List Completion) :
    Loader × Option (Except PagingError PageOutcome) × List Completion :=
  match arriving with
  | [] => (l, none, [])
  | completion :: rest =>
    match l.complete completion with
    | (applied, .page completed outcome) =>
      if completed = ticket then (applied, some outcome, rest)
      else applied.awaitPage ticket rest
    | (applied, _) => applied.awaitPage ticket rest

/-- Asks for the next page and waits for it. Nothing is awaited if no page is asked for. -/
def fetchPage (l : Loader) (arriving : List Completion) :
    Loader × Option (Except PagingError PageOutcome) × List Completion :=
  match l.requestPage with
  | (asked, some ticket) => asked.awaitPage ticket arriving
  | (asked, none) => (asked, some (.ok (.skipped (asked.skipReason?.getD .fetching))), arriving)

end Loader

end FeedReader
