import FeedReader.Proofs.Paging.Run
import FeedReader.Proofs.Story.Collection

/-!
# What the operations change

An operation changes few parts of a loader, and whatever it reports or asks for is put
behind what has been reported or asked for before. Each operation is brought into this form
once: **the loader that there was, with the parts that change replaced**. Everything else
about an operation follows from that equation, the frame conditions among it, and no later
proof opens the operation again.

Where an operation goes one of several ways there is an equation for each, under the
condition that decides. Operations on flags leave alone where the loader stands in its
stream, which is what `FeedReader.Loader.SamePlace` says.
-/

namespace FeedReader

/-! ### Flags of several stories -/

namespace Collection

/-- The collection after a flag has been set story by story, to a value of its own for each. -/
def setFlags (c : Collection) (change : FlagChange) (targets : List (StoryId × Bool)) :
    Collection :=
  targets.foldl (fun c target => c.modify target.1 (change.set target.2)) c

/-- The value that a list of targets gives a story, if it names the story: the last one. -/
def valueFor? (targets : List (StoryId × Bool)) (id : StoryId) : Option Bool :=
  ((targets.filter fun target => target.1 = id).getLast?).map Prod.snd

variable (c : Collection) (change : FlagChange)

@[simp] theorem setFlags_nil : c.setFlags change [] = c := rfl

@[simp] theorem setFlags_cons (target : StoryId × Bool) (targets : List (StoryId × Bool)) :
    c.setFlags change (target :: targets) =
      (c.modify target.1 (change.set target.2)).setFlags change targets := rfl

@[simp] theorem unflagged_setFlags (targets : List (StoryId × Bool)) :
    (c.setFlags change targets).unflagged = c.unflagged := by
  induction targets generalizing c with
  | nil => rfl
  | cons target targets ih =>
    rw [setFlags_cons, ih]
    exact unflagged_modify (change.unflagged_set target.2) c target.1

@[simp] theorem ids_setFlags (targets : List (StoryId × Bool)) :
    (c.setFlags change targets).ids = c.ids := by
  rw [← ids_unflagged, unflagged_setFlags, ids_unflagged]

/-- **A story gets the value that is set last**, and is left alone if it is not named. -/
theorem find?_setFlags (targets : List (StoryId × Bool)) (id : StoryId) :
    (c.setFlags change targets).find? id =
      (c.find? id).map fun story =>
        ((valueFor? targets id).map fun value => change.set value story).getD story := by
  induction targets generalizing c with
  | nil => simp [valueFor?]
  | cons target targets ih =>
    rw [setFlags_cons, ih, find?_modify (change.id_set target.2), Option.map_map]
    refine Option.map_congr fun story hstory => ?_
    have hid : story.id = id := id_of_find? hstory
    simp only [Function.comp_apply, hid]
    by_cases htarget : target.1 = id
    · -- If the story is named again later, what is set here is overwritten.
      have hset : ∀ value value',
          change.set value (change.set value' story) = change.set value story := by
        intro value value'
        cases change <;> rfl
      rw [if_pos htarget.symm, valueFor?, valueFor?,
        List.filter_cons_of_pos (by simpa using htarget), List.getLast?_cons]
      cases (targets.filter fun t => t.1 = id).getLast? <;> simp [hset]
    · have hne : ¬id = target.1 := fun h => htarget h.symm
      rw [if_neg hne, valueFor?, valueFor?, List.filter_cons_of_neg (by simpa using htarget)]

/-- The ids of the stories that have not been read. -/
def unreadIds : List StoryId := (c.stories.filter fun story => !story.read).map Story.id

end Collection

namespace Loader

variable (l : Loader)

/-! ### Reports -/

/-- The report of stories that were added: none if there are none. -/
def addedEvents (added : List Story) : List Event :=
  if added.isEmpty then [] else [.added added]

theorem announceAdded_eq (added : List Story) :
    l.announceAdded added = { l with events := l.events ++ addedEvents added } := by
  unfold announceAdded addedEvents
  split
  · simp
  · rfl

/-- The reports of stories whose flag is set, each as it is at that moment. -/
def changedEvents (change : FlagChange) : List (StoryId × Bool) → Collection → List Event
  | [], _ => []
  | target :: targets, c =>
    (c.find? target.1).toList.map (fun story => .changed (change.set target.2 story)) ++
      changedEvents change targets (c.modify target.1 (change.set target.2))

theorem setFlag_eq (change : FlagChange) (value : Bool) (id : StoryId) :
    l.setFlag change value id =
      { l with
        collection := l.collection.modify id (change.set value)
        events := l.events ++ (l.collection.find? id).toList.map
          fun story => .changed (change.set value story) } := by
  unfold setFlag
  simp only [Collection.find?_modify (change.id_set value)]
  cases h : l.collection.find? id with
  | none => simp [Collection.modify_of_find?_eq_none h]
  | some story => simp [emit, Collection.id_of_find? h]

theorem foldl_setFlag_eq (change : FlagChange) (targets : List (StoryId × Bool)) :
    targets.foldl (fun l target => l.setFlag change target.2 target.1) l =
      { l with
        collection := l.collection.setFlags change targets
        events := l.events ++ changedEvents change targets l.collection } := by
  induction targets generalizing l with
  | nil => simp [changedEvents]
  | cons target targets ih =>
    rw [List.foldl_cons, ih, setFlag_eq]
    simp [changedEvents]

/-! ### Beginning a stream -/

/-- The stories that the cache offers the collection: none if they may not enter now, and
none if the cache fails. -/
def offered : List Story :=
  if l.takesOffline then (l.cache.load l.context).toOption.getD [] else []

/-- The stories of the cache that are new to the collection. -/
def newlyOffered : List Story := (l.collection.append l.offered).2

theorem loadOffline_eq :
    l.loadOffline =
      ({ l with
          collection := l.collection.merge l.offered
          seeded := l.seeded || !l.newlyOffered.isEmpty
          events := l.events ++ addedEvents l.newlyOffered },
        l.newlyOffered.length) := by
  unfold loadOffline newlyOffered offered
  split
  · cases h : l.cache.load l.context with
    | error fault => simp [Except.toOption, addedEvents]
    | ok cached =>
      simp only [Except.toOption, Option.getD_some, announceAdded_eq]
      rfl
  · simp [addedEvents]

/-- The loader at the beginning of a stream, before the cache has been asked. -/
def beginning (context : Context) : Loader :=
  { l with
    context
    fetch := .start
    collection := {}
    generation := l.generation + 1
    seeded := false }

theorem reset_eq (context : Context) :
    l.reset context = (l.beginning context).loadOffline.1.announce := rfl

/-! ### Asking for a page -/

theorem requestPage_of_busy (h : l.fetch.isIdle = false) : l.requestPage = (l, none) := by
  simp [requestPage, FetchState.begin?, h]

theorem requestPage_of_idle (h : l.fetch.isIdle = true) :
    l.requestPage =
      ({ l with
          fetch := { l.fetch with fetching := true }
          pendingPages := l.pendingPages ++ [l.nextTicket]
          requests := l.requests ++ [.page l.nextTicket]
          events := l.events ++ [.fetchState { l.fetch with fetching := true }] },
        some l.nextTicket) := by
  simp [requestPage, FetchState.begin?, h, issue, announce, emit]

/-! ### Changing flags -/

/-- The loader after a flag of a story has been changed and the server asked. -/
def marked (change : FlagChange) (story : Story) : Loader :=
  { l with
    collection := l.collection.modify story.id (change.set change.target)
    pendingChanges := l.pendingChanges ++
      [⟨l.nextNumber, l.generation, change, [(story.id, change.get story)]⟩]
    nextNumber := l.nextNumber + 1
    requests := l.requests ++ [.flag l.nextNumber (.mark change story.id)]
    events := l.events ++ [.changed (change.set change.target story)] }

theorem mark_of_unknown (change : FlagChange) {id : StoryId} (h : l.collection.find? id = none) :
    l.mark change id = (l, .error (.unknownStory id)) := by
  simp [mark, h]

theorem mark_of_set {change : FlagChange} {id : StoryId} {story : Story}
    (h : l.collection.find? id = some story) (hset : change.get story = change.target) :
    l.mark change id = (l, .ok false) := by
  simp [mark, h, hset]

theorem mark_of_unset {change : FlagChange} {id : StoryId} {story : Story}
    (h : l.collection.find? id = some story) (hset : change.get story ≠ change.target) :
    l.mark change id = (l.marked change story, .ok true) := by
  obtain rfl := Collection.id_of_find? h
  simp [mark, marked, h, hset, setFlag_eq, requestChange, issue]

theorem markAllRead_eq :
    l.markAllRead =
      let unread := l.collection.unreadIds
      ({ l with
          collection := l.collection.setFlags .markAllRead (unread.map fun id => (id, true))
          pendingChanges := l.pendingChanges ++
            [⟨l.nextNumber, l.generation, .markAllRead, unread.map fun id => (id, false)⟩]
          nextNumber := l.nextNumber + 1
          requests := l.requests ++ [.flag l.nextNumber (.markContextRead l.context)]
          events := l.events ++
            changedEvents .markAllRead (unread.map fun id => (id, true)) l.collection },
        unread.length) := by
  have hfold : ∀ unread : List StoryId,
      unread.foldl (fun l id => l.setFlag .markAllRead true id) l =
        (unread.map fun id => (id, true)).foldl
          (fun l target => l.setFlag .markAllRead target.2 target.1) l := by
    intro unread
    rw [List.foldl_map]
  simp only [markAllRead, hfold, foldl_setFlag_eq]
  rfl

theorem takeBack_eq (pending : PendingChange) :
    l.takeBack pending =
      { l with
        collection := l.collection.setFlags pending.change pending.targets
        events := l.events ++ changedEvents pending.change pending.targets l.collection } :=
  l.foldl_setFlag_eq pending.change pending.targets

/-! ### Completions -/

/-- The loader that no longer waits for a page. -/
def withoutPage (ticket : Ticket) : Loader :=
  { l with pendingPages := l.pendingPages.erase ticket }

/-- The loader that no longer waits for the answer to a flag change. -/
def withoutChange (number : Nat) : Loader :=
  { l with pendingChanges := l.pendingChanges.filter fun p => p.number ≠ number }

/-- The flag changes of the current generation that have not been completed. -/
def currentChanges : List PendingChange :=
  l.pendingChanges.filter fun p => p.generation = l.generation

/-- What a page is merged into: nothing, if it replaces what the cache had. -/
def baseOf (page : Nat) : Collection := if page = 1 && l.seeded then {} else l.collection

/-- What the collection holds once a page has been merged. -/
def merged (page : Nat) (stories : List Story) : Collection :=
  l.currentChanges.foldl reapply ((l.baseOf page).merge stories)

theorem reapply_eq (c : Collection) (pending : PendingChange) :
    reapply c pending =
      c.setFlags pending.change
        (pending.targets.map fun target => (target.1, pending.change.target)) := by
  rw [reapply, Collection.setFlags, List.foldl_map]
  rfl

theorem unflagged_foldl_reapply (changes : List PendingChange) (c : Collection) :
    (changes.foldl reapply c).unflagged = c.unflagged := by
  induction changes generalizing c with
  | nil => rfl
  | cons change changes ih => rw [List.foldl_cons, ih, reapply_eq, Collection.unflagged_setFlags]

/-- The stories that a page adds, as the page has them. -/
def addedBy (page : Nat) (stories : List Story) : List Story :=
  ((l.baseOf page).append stories).2

/-- Whether a page is the last one. -/
def isLast (page : Nat) (stories : List Story) : Bool :=
  stories.length < l.pageSize || (l.addedBy page stories).isEmpty

/-- How far the stream has been fetched once a page has been merged. -/
def fetchAfter (page : Nat) (stories : List Story) : FetchState :=
  (l.fetch.complete (l.isLast page stories)).setOnline true

/-- **A page that is merged** goes to the cache and into the collection, under the flag
changes that are pending. -/
theorem mergePage_eq (page : Nat) (stories : List Story) :
    l.mergePage page stories =
      ({ l with
          cache := (l.cachePage page stories).cache
          collection := l.merged page stories
          seeded := l.seeded && page != 1
          fetch := l.fetchAfter page stories
          events := l.events ++
            (if page = 1 && l.seeded then [.replaced (l.merged page stories).stories]
              else addedEvents (l.addedBy page stories)) ++
            [.fetchState (l.fetchAfter page stories)] },
        .loaded (l.addedBy page stories).length (l.isLast page stories)) := by
  by_cases hpage : page = 1 <;> cases hseeded : l.seeded <;>
    simp [mergePage, takePage, cachePage, reapplyAll, announceAdded_eq, announce, emit, merged,
      fetchAfter, addedBy, isLast, baseOf, currentChanges, Collection.append,
      Collection.replaceAll, hpage, hseeded]

/-- The loader after a page has failed and before it says so: idle again, and if the server
could not be reached at the beginning, with what the cache has. -/
def afterFailure (page : Nat) (cause : FetchError) : Loader :=
  if page = 1 && cause.isConnectivity then
    { l with fetch := l.fetch.fail.setOnline false }.loadOffline.1
  else { l with fetch := l.fetch.fail }

theorem failPage_eq (page : Nat) (cause : FetchError) :
    l.failPage page cause =
      ({ l.afterFailure page cause with
          events := (l.afterFailure page cause).events ++
            [.fetchState (l.afterFailure page cause).fetch, .error (.pageFailed page cause)] },
        .pageFailed page cause) := by
  simp [failPage, afterFailure, announce, emit]

theorem complete_page_of_unknown {ticket : Ticket} (h : ticket ∉ l.pendingPages)
    (result : Except FetchError (List Story)) :
    l.complete (.page ticket result) = (l, .ignored) := by
  simp [complete, h]

/-- A page that is waited for is applied once it is no longer waited for. -/
theorem complete_page_of_mem {ticket : Ticket} (h : ticket ∈ l.pendingPages)
    (result : Except FetchError (List Story)) :
    l.complete (.page ticket result) =
      (((l.withoutPage ticket).applyPage ticket result).1,
        .page ticket ((l.withoutPage ticket).applyPage ticket result).2) := by
  simp [complete, h, withoutPage]

theorem complete_page_of_stale {ticket : Ticket} (h : ticket ∈ l.pendingPages)
    (hexp : l.expects ticket = false) (result : Except FetchError (List Story)) :
    l.complete (.page ticket result) = (l.withoutPage ticket, .page ticket (.ok .discarded)) := by
  have hstale : (l.withoutPage ticket).expects ticket = false := hexp
  simp [complete_page_of_mem l h, applyPage, hstale]

theorem complete_page_of_ok {ticket : Ticket} (h : ticket ∈ l.pendingPages)
    (hexp : l.expects ticket = true) (stories : List Story) :
    l.complete (.page ticket (.ok stories)) =
      (((l.withoutPage ticket).mergePage ticket.page stories).1,
        .page ticket (.ok ((l.withoutPage ticket).mergePage ticket.page stories).2)) := by
  have hcurrent : (l.withoutPage ticket).expects ticket = true := hexp
  simp [complete_page_of_mem l h, applyPage, hcurrent]

theorem complete_page_of_error {ticket : Ticket} (h : ticket ∈ l.pendingPages)
    (hexp : l.expects ticket = true) (cause : FetchError) :
    l.complete (.page ticket (.error cause)) =
      (((l.withoutPage ticket).failPage ticket.page cause).1,
        .page ticket (.error (.pageFailed ticket.page cause))) := by
  have hcurrent : (l.withoutPage ticket).expects ticket = true := hexp
  simp [complete_page_of_mem l h, applyPage, hcurrent, failPage]

theorem complete_page_cases (ticket : Ticket) (result : Except FetchError (List Story)) :
    (ticket ∉ l.pendingPages ∧ l.complete (.page ticket result) = (l, .ignored)) ∨
      (ticket ∈ l.pendingPages ∧ l.expects ticket = false ∧
        l.complete (.page ticket result) =
          (l.withoutPage ticket, .page ticket (.ok .discarded))) ∨
      (∃ stories, result = .ok stories ∧ ticket ∈ l.pendingPages ∧ l.expects ticket = true ∧
        l.complete (.page ticket result) =
          (((l.withoutPage ticket).mergePage ticket.page stories).1,
            .page ticket (.ok ((l.withoutPage ticket).mergePage ticket.page stories).2))) ∨
      ∃ cause, result = .error cause ∧ ticket ∈ l.pendingPages ∧ l.expects ticket = true ∧
        l.complete (.page ticket result) =
          (((l.withoutPage ticket).failPage ticket.page cause).1,
            .page ticket (.error (.pageFailed ticket.page cause))) := by
  by_cases hmem : ticket ∈ l.pendingPages
  · cases hexp : l.expects ticket with
    | false => exact .inr (.inl ⟨hmem, rfl, l.complete_page_of_stale hmem hexp result⟩)
    | true =>
      cases result with
      | ok stories =>
        exact .inr (.inr (.inl
          ⟨stories, rfl, hmem, rfl, l.complete_page_of_ok hmem hexp stories⟩))
      | error cause =>
        exact .inr (.inr (.inr
          ⟨cause, rfl, hmem, rfl, l.complete_page_of_error hmem hexp cause⟩))
  · exact .inl ⟨hmem, l.complete_page_of_unknown hmem result⟩

/-- The flag change that is pending under a number. -/
def pendingChange? (number : Nat) : Option PendingChange :=
  l.pendingChanges.find? fun p => p.number = number

/-- The error of a flag change that failed. -/
def changeError (pending : PendingChange) (cause : FetchError) : PagingError :=
  .changeFailed (namedStory pending) pending.change cause

theorem complete_flag_of_unknown {number : Nat} (h : l.pendingChange? number = none)
    (result : Except FetchError Unit) : l.complete (.flag number result) = (l, .ignored) := by
  unfold pendingChange? at h
  simp [complete, h]

/-- A change that is confirmed goes to the cache, if its stream is still there. -/
theorem complete_flag_of_ok {number : Nat} {pending : PendingChange}
    (h : l.pendingChange? number = some pending) :
    l.complete (.flag number (.ok ())) =
      (if pending.generation = l.generation then (l.withoutChange number).confirm pending
        else l.withoutChange number,
        .flag pending.change (.ok ())) := by
  unfold pendingChange? at h
  simp [complete, h, applyChange, withoutChange]

/-- A change that fails is taken back, if its stream is still there, and reported in any
case. -/
theorem complete_flag_of_error {number : Nat} {pending : PendingChange}
    (h : l.pendingChange? number = some pending) (cause : FetchError) :
    l.complete (.flag number (.error cause)) =
      ((if pending.generation = l.generation then (l.withoutChange number).takeBack pending
        else l.withoutChange number).emit (.error (changeError pending cause)),
        .flag pending.change (.error (changeError pending cause))) := by
  unfold pendingChange? at h
  simp [complete, h, applyChange, withoutChange, changeError]

/-! ### What flag changes leave alone -/

/-- The tickets of the pages that have been asked for, in order. -/
def issuedTickets : List Ticket :=
  l.requests.filterMap fun
    | .page ticket => some ticket
    | .flag _ _ => none

/-- Two loaders that stand at the same place of the same stream: they differ at most in the
flags of their stories and in what belongs to flag changes. -/
structure SamePlace (l l' : Loader) : Prop where
  pageSize : l'.pageSize = l.pageSize
  context : l'.context = l.context
  fetch : l'.fetch = l.fetch
  generation : l'.generation = l.generation
  seeded : l'.seeded = l.seeded
  pendingPages : l'.pendingPages = l.pendingPages
  issuedTickets : l'.issuedTickets = l.issuedTickets
  unflagged : l'.collection.unflagged = l.collection.unflagged

theorem SamePlace.refl : SamePlace l l := ⟨rfl, rfl, rfl, rfl, rfl, rfl, rfl, rfl⟩

theorem SamePlace.trans {l l' l'' : Loader} (h : SamePlace l l') (h' : SamePlace l' l'') :
    SamePlace l l'' where
  pageSize := h'.pageSize.trans h.pageSize
  context := h'.context.trans h.context
  fetch := h'.fetch.trans h.fetch
  generation := h'.generation.trans h.generation
  seeded := h'.seeded.trans h.seeded
  pendingPages := h'.pendingPages.trans h.pendingPages
  issuedTickets := h'.issuedTickets.trans h.issuedTickets
  unflagged := h'.unflagged.trans h.unflagged

theorem samePlace_emit (event : Event) : SamePlace l (l.emit event) :=
  ⟨rfl, rfl, rfl, rfl, rfl, rfl, rfl, rfl⟩

theorem samePlace_marked (change : FlagChange) (story : Story) :
    SamePlace l (l.marked change story) :=
  ⟨rfl, rfl, rfl, rfl, rfl, rfl, by simp [marked, issuedTickets],
    Collection.unflagged_modify (change.unflagged_set change.target) l.collection story.id⟩

theorem samePlace_mark (change : FlagChange) (id : StoryId) :
    SamePlace l (l.mark change id).1 := by
  cases hfind : l.collection.find? id with
  | none =>
    rw [l.mark_of_unknown change hfind]
    exact .refl l
  | some story =>
    by_cases hset : change.get story = change.target
    · rw [l.mark_of_set hfind hset]
      exact .refl l
    · rw [l.mark_of_unset hfind hset]
      exact l.samePlace_marked change story

theorem samePlace_markAllRead : SamePlace l l.markAllRead.1 := by
  rw [markAllRead_eq]
  exact ⟨rfl, rfl, rfl, rfl, rfl, rfl, by simp [issuedTickets], Collection.unflagged_setFlags _ _ _⟩

theorem samePlace_takeBack (pending : PendingChange) : SamePlace l (l.takeBack pending) := by
  rw [takeBack_eq]
  exact ⟨rfl, rfl, rfl, rfl, rfl, rfl, rfl, Collection.unflagged_setFlags _ _ _⟩

theorem samePlace_complete_flag (number : Nat) (result : Except FetchError Unit) :
    SamePlace l (l.complete (.flag number result)).1 := by
  have hwithout : SamePlace l (l.withoutChange number) :=
    ⟨rfl, rfl, rfl, rfl, rfl, rfl, rfl, rfl⟩
  cases hfind : l.pendingChange? number with
  | none =>
    rw [l.complete_flag_of_unknown hfind result]
    exact .refl l
  | some pending =>
    cases result with
    | ok _ =>
      rw [l.complete_flag_of_ok hfind]
      split
      · exact hwithout.trans ⟨rfl, rfl, rfl, rfl, rfl, rfl, rfl, rfl⟩
      · exact hwithout
    | error cause =>
      rw [l.complete_flag_of_error hfind cause]
      split
      · exact (hwithout.trans (samePlace_takeBack _ pending)).trans (samePlace_emit _ _)
      · exact hwithout.trans (samePlace_emit _ _)

/-! ### What pages leave alone -/

/-- Two loaders of one generation between which nothing was asked for and no flag change was made
or answered. -/
structure SameRecord (l l' : Loader) : Prop where
  pageSize : l'.pageSize = l.pageSize
  generation : l'.generation = l.generation
  nextNumber : l'.nextNumber = l.nextNumber
  pendingChanges : l'.pendingChanges = l.pendingChanges
  requests : l'.requests = l.requests

theorem SameRecord.refl : SameRecord l l := ⟨rfl, rfl, rfl, rfl, rfl⟩

theorem sameRecord_afterFailure (page : Nat) (cause : FetchError) :
    SameRecord l (l.afterFailure page cause) := by
  unfold afterFailure
  split
  · rw [loadOffline_eq]
    exact ⟨rfl, rfl, rfl, rfl, rfl⟩
  · exact ⟨rfl, rfl, rfl, rfl, rfl⟩

theorem sameRecord_complete_page (ticket : Ticket) (result : Except FetchError (List Story)) :
    SameRecord l (l.complete (.page ticket result)).1 := by
  rcases l.complete_page_cases ticket result with
    ⟨-, h⟩ | ⟨-, -, h⟩ | ⟨stories, -, -, -, h⟩ | ⟨cause, -, -, -, h⟩ <;> rw [h]
  · exact .refl l
  · exact ⟨rfl, rfl, rfl, rfl, rfl⟩
  · rw [mergePage_eq]
    exact ⟨rfl, rfl, rfl, rfl, rfl⟩
  · rw [failPage_eq]
    have hkept := (l.withoutPage ticket).sameRecord_afterFailure ticket.page cause
    exact ⟨hkept.pageSize, hkept.generation, hkept.nextNumber, hkept.pendingChanges,
      hkept.requests⟩

theorem pendingPages_afterFailure (page : Nat) (cause : FetchError) :
    (l.afterFailure page cause).pendingPages = l.pendingPages := by
  unfold afterFailure
  split
  · rw [loadOffline_eq]
  · rfl

/-- A page that has come to its end is not waited for any more. -/
theorem pendingPages_complete_page (ticket : Ticket) (result : Except FetchError (List Story)) :
    (l.complete (.page ticket result)).1.pendingPages = l.pendingPages.erase ticket := by
  rcases l.complete_page_cases ticket result with
    ⟨hmem, h⟩ | ⟨-, -, h⟩ | ⟨stories, -, -, -, h⟩ | ⟨cause, -, -, -, h⟩ <;> rw [h]
  · exact (List.erase_of_not_mem hmem).symm
  · rfl
  · rw [mergePage_eq]
    rfl
  · rw [failPage_eq]
    exact pendingPages_afterFailure _ _ _

end Loader

end FeedReader
