import FeedReader.Paging.Loader

/-!
# Changing flags

A flag is changed at once, and the server is asked to confirm the change. The change then is
*pending* until the server has answered:

* when it is **confirmed**, the cache gets the stories as they are now,
* when it **fails**, each story that was changed gets back the value that it had before, and
  the error is reported.

A change that belongs to an earlier generation touches no story any more, but its failure is
reported all the same.
-/

namespace FeedReader

namespace Loader

/-- Sets a flag of a story and reports the story as it is then. -/
def setFlag (l : Loader) (change : FlagChange) (value : Bool) (id : StoryId) : Loader :=
  let set := { l with collection := l.collection.modify id (change.set value) }
  match set.collection.find? id with
  | none => l
  | some story => set.emit (.changed story)

/-- Asks the server for a change that has been made, and remembers how to take it back. -/
def requestChange (l : Loader) (change : FlagChange) (targets : List (StoryId × Bool))
    (call : Call) : Loader :=
  let number := l.nextNumber
  let pending : PendingChange := { number, generation := l.generation, change, targets }
  let asked :=
    { l with pendingChanges := l.pendingChanges ++ [pending], nextNumber := number + 1 }
  asked.issue (.flag number call)

/-- Changes a flag of one story. Nothing is sent when the flag has the wanted value already. -/
def mark (l : Loader) (change : FlagChange) (id : StoryId) : Loader × Except PagingError Bool :=
  match l.collection.find? id with
  | none => (l, .error (.unknownStory id))
  | some story =>
    let previous := change.get story
    if previous = change.target then (l, .ok false)
    else
      let marked := l.setFlag change change.target id
      (marked.requestChange change [(id, previous)] (.mark change id), .ok true)

/-- Marks every loaded story read and asks the server to mark the whole stream read. The server
is asked even if no loaded story is unread, since it may hold unread ones that have not been
loaded. Returns how many stories were changed. -/
def markAllRead (l : Loader) : Loader × Nat :=
  let unread := (l.collection.stories.filter (fun story => !story.read)).map Story.id
  let marked := unread.foldl (fun l id => l.setFlag .markAllRead true id) l
  let targets := unread.map fun id => (id, false)
  (marked.requestChange .markAllRead targets (.markContextRead l.context), unread.length)

/-- Hands the stories of a confirmed change to the cache, as they are now. -/
def confirm (l : Loader) (pending : PendingChange) : Loader :=
  let current := pending.targets.filterMap fun target => l.collection.find? target.1
  { l with cache := l.cache.afterAttempt (l.cache.save l.context current) }

/-- Gives each story of a failed change the value that it had before. -/
def takeBack (l : Loader) (pending : PendingChange) : Loader :=
  pending.targets.foldl (fun l target => l.setFlag pending.change target.2 target.1) l

/-- The story that a change names in an error. -/
def namedStory (pending : PendingChange) : Option StoryId :=
  match pending.change with
  | .markAllRead => none
  | _ => pending.targets.head?.map Prod.fst

/-- Applies the server's answer to a flag change. -/
def applyChange (l : Loader) (pending : PendingChange) (result : Except FetchError Unit) :
    Loader × Except PagingError Unit :=
  let current := pending.generation = l.generation
  match result with
  | .ok _ => (if current then l.confirm pending else l, .ok ())
  | .error cause =>
    let settled := if current then l.takeBack pending else l
    let error := .changeFailed (namedStory pending) pending.change cause
    (settled.emit (.error error), .error error)

end Loader

end FeedReader
