import FeedReader.Proofs.Paging.Outstanding
import FeedReader.Proofs.Paging.Reports

/-!
# Failures and states are reported

The reports that speak of no story are *notes*: how far the stream has been fetched, at which level
it is looked at, and what went wrong. An act sends each kind at most once, behind whatever it
reports of stories (`FeedReader.Loader.sendsNotes`), and which notes it sends is known from the act
and the loader that it meets:

* **an error** if it completes a request with a failure, unless it is a page of a stream that the
  loader has left (`FeedReader.Loader.errorOf?`);
* **the state of the stream** if it begins the stream, asks for a page, or completes the page that
  the stream waits for (`FeedReader.Loader.movesStream`).

So whoever is told the errors has been told each failure once, and whoever is told the states knows
how far the stream has been fetched. The state is sent when it has been changed for the last time.
-/

namespace FeedReader

namespace Event

/-- The error that is reported, if one is. -/
def error? : Event → Option PagingError
  | .error e => some e
  | _ => none

/-- The state of the stream that is reported, if one is. -/
def fetchState? : Event → Option FetchState
  | .fetchState state => some state
  | _ => none

/-- The reports of stories carry neither errors nor states. -/
theorem filterMap_eq_nil_of_stories {α : Type} {f : Event → Option α}
    (hf : ∀ event : Event, event.isNote = false → f event = none) {told : List Event}
    (htold : ∀ event ∈ told, event.isNote = false) : told.filterMap f = [] :=
  List.filterMap_eq_nil_iff.mpr fun event hevent => hf event (htold event hevent)

theorem error?_of_stories (event : Event) (h : event.isNote = false) : event.error? = none := by
  cases event <;> first | rfl | cases h

theorem fetchState?_of_stories (event : Event) (h : event.isNote = false) :
    event.fetchState? = none := by
  cases event <;> first | rfl | cases h

end Event

/-- The error with which an outcome tells its caller that a request has failed. -/
def Applied.error? : Applied → Option PagingError
  | page _ (.error e) | flag _ (.error e) => some e
  | _ => none

namespace Loader

/-! ### Which notes an act sends -/

/-- The change that the server was asked for under a number, and the story that it names. -/
def askedFor? (l : Loader) (number : Nat) : Option (FlagChange × Option StoryId) :=
  l.requests.findSome? fun
    | .page _ => none
    | .flag n call => if n = number then askedChange? call else none

/-- **The failures that count**: that of a page of the current generation, and that of any flag
change. A completion of a request that is not outstanding does not count. -/
def errorOf? (l : Loader) : Completion → Option PagingError
  | .page ticket (.error cause) =>
    if .page ticket ∈ l.outstanding ∧ ticket.generation = l.generation then
      some (.pageFailed ticket.page cause)
    else none
  | .flag number (.error cause) =>
    if .flag number ∈ l.outstanding then
      (l.askedFor? number).map fun asked => .changeFailed asked.2 asked.1 cause
    else none
  | _ => none

/-- The failure that an act brings, if it brings one that counts. -/
def errorAt? : Loader × Act → Option PagingError
  | (l, .complete completion) => l.errorOf? completion
  | _ => none

/-- Whether an act has to do with how far the stream has been fetched: it begins the stream, asks
for a page, or completes the page that the stream waits for. -/
def movesStream (l : Loader) : Act → Bool
  | .reset _ => true
  | .requestPage => l.requestPage.2.isSome
  | .complete (.page ticket _) =>
    .page ticket ∈ l.outstanding ∧ ticket.generation = l.generation
  | _ => false

/-- The level that an act sets, if it sets one. -/
def levelSet? : Act → Option Level
  | .changeLevel level => some level
  | _ => none

/-- The notes that an act sends. -/
def notes (l : Loader) (act : Act) : List Event :=
  (levelSet? act).toList.map .level ++
    (if l.movesStream act then [.fetchState (l.step act).fetch] else []) ++
    (errorAt? (l, act)).toList.map .error

variable {l : Loader}

/-! ### What a pending change was asked as -/

theorem askedFor?_append (l : Loader) (number : Nat) (requests : List Request) :
    askedFor? { l with requests := l.requests ++ requests } number =
      (l.askedFor? number).or (askedFor? { l with requests } number) := by
  simp only [askedFor?, List.findSome?_append]

/-- Nothing has been asked for under the next number. -/
theorem Reachable.askedFor?_nextNumber (hl : Reachable l) : l.askedFor? l.nextNumber = none := by
  refine List.findSome?_eq_none_iff.mpr fun request hrequest => ?_
  cases request with
  | page ticket => rfl
  | flag number call =>
    have hnumber : number ∈ l.issuedNumbers := List.mem_filterMap.mpr ⟨_, hrequest, rfl⟩
    rw [hl.issuedNumbers, List.mem_range] at hnumber
    exact if_neg (Nat.ne_of_lt hnumber)

/-- Requests stay on record. -/
theorem exists_requests_step (l : Loader) (act : Act) :
    ∃ asked, (l.step act).requests = l.requests ++ asked := by
  rcases l.completes_or_asks act with ⟨completion, rfl⟩ | ⟨-, hasking⟩
  · exact ⟨[], by rw [step, requests_complete, List.append_nil]⟩
  · cases hasking with
    | nothing hrequests => exact ⟨[], by rw [hrequests, List.append_nil]⟩
    | page ticket hrequests => exact ⟨_, hrequests⟩
    | change call pending hpending hrequests => exact ⟨_, hrequests⟩

/-- **A pending change is remembered as it was asked for.** -/
theorem Reachable.askedFor?_of_pending (hl : Reachable l) :
    ∀ pending ∈ l.pendingChanges,
      l.askedFor? pending.number = some (pending.change, namedStory pending) := by
  induction hl with
  | new context cache pageSize => simp [Loader.new]
  | @step l act hl ih =>
    intro pending hmem
    rcases mem_pendingChanges_step hmem with hold | ⟨-, -, call, hrequests, hnumber, hasked⟩
    · obtain ⟨asked, hrequests⟩ := l.exists_requests_step act
      have hkept := l.askedFor?_append pending.number asked
      rw [ih pending hold, Option.some_or] at hkept
      simpa only [askedFor?, hrequests] using hkept
    · -- The number is new, so what is found under it is the request that has just been made.
      have hnew := l.askedFor?_append pending.number [.flag pending.number call]
      rw [hnumber, hl.askedFor?_nextNumber, Option.none_or, ← hnumber] at hnew
      simpa [askedFor?, hrequests, hasked] using hnew

/-- The failure of a flag change that is outstanding counts, and names the change that was asked
for. -/
theorem Reachable.errorOf?_flag (hl : Reachable l) {pending : PendingChange}
    (hmem : pending ∈ l.pendingChanges) (cause : FetchError) :
    l.errorOf? (.flag pending.number (.error cause)) = some (changeError pending cause) := by
  have hout : .flag pending.number ∈ l.outstanding := flag_mem_outstanding.mpr ⟨pending, hmem, rfl⟩
  rw [errorOf?, if_pos hout, hl.askedFor?_of_pending pending hmem]
  rfl

/-! ### The notes of an act -/

theorem isNote_of_mem_changedEvents {change : FlagChange} {targets : List (StoryId × Bool)}
    {c : Collection} {event : Event} (h : event ∈ changedEvents change targets c) :
    event.isNote = false := by
  induction targets generalizing c with
  | nil => cases h
  | cons target targets ih =>
    rcases List.mem_append.mp h with h | h
    · obtain ⟨story, -, rfl⟩ := List.mem_map.mp h
      rfl
    · exact ih h

theorem isNote_of_mem_addedEvents {added : List Story} {event : Event}
    (h : event ∈ addedEvents added) : event.isNote = false := by
  unfold addedEvents at h
  split at h
  · cases h
  · rw [List.mem_singleton.mp h]
    rfl

/-- A page that is outstanding belongs to the stream if it was asked for since the last reset. -/
theorem Reachable.expects_eq (hl : Reachable l) {ticket : Ticket} (hmem : ticket ∈ l.pendingPages) :
    l.expects ticket = decide (ticket.generation = l.generation) := by
  obtain ⟨merges, horder⟩ := hl.pagesInOrder
  rw [Bool.eq_iff_iff, decide_eq_true_iff]
  exact ⟨fun h => ((l.expects_iff ticket).mp h).1, horder.expects_of_current hmem⟩

/-- What an act reports is about stories, and then come its notes. -/
def SendsNotes (l : Loader) (act : Act) : Prop :=
  ∃ told : List Event, (∀ event ∈ told, event.isNote = false) ∧
    (l.step act).events = l.events ++ (told ++ l.notes act)

/-- A page that the stream waits for brings the state, and an error behind it if it failed. No other
page brings a note. -/
theorem notes_complete_page (l : Loader) (ticket : Ticket)
    (result : Except FetchError (List Story)) :
    l.notes (.complete (.page ticket result)) =
      if .page ticket ∈ l.outstanding ∧ ticket.generation = l.generation then
        .fetchState (l.complete (.page ticket result)).1.fetch ::
          match result with
          | .ok _ => []
          | .error cause => [.error (.pageFailed ticket.page cause)]
      else [] := by
  by_cases hcounts : .page ticket ∈ l.outstanding ∧ ticket.generation = l.generation <;>
    cases result <;> simp [notes, levelSet?, movesStream, errorAt?, errorOf?, step, hcounts]

theorem notes_complete_flag (l : Loader) (number : Nat) (result : Except FetchError Unit) :
    l.notes (.complete (.flag number result)) =
      (l.errorOf? (.flag number result)).toList.map .error := by
  simp [notes, levelSet?, movesStream, errorAt?]

theorem sendsNotes_complete_page (hl : Reachable l) (ticket : Ticket)
    (result : Except FetchError (List Story)) : SendsNotes l (.complete (.page ticket result)) := by
  rw [SendsNotes, notes_complete_page, step]
  rcases l.complete_page_cases ticket result with
    ⟨hmem, h⟩ | ⟨hmem, hexp, h⟩ | ⟨stories, rfl, hmem, hexp, h⟩ | ⟨cause, rfl, hmem, hexp, h⟩
  · rw [if_neg fun hcounts => hmem (page_mem_outstanding.mp hcounts.1), h]
    exact ⟨[], by simp, (List.append_nil _).symm⟩
  · rw [hl.expects_eq hmem, decide_eq_false_iff_not] at hexp
    rw [if_neg fun hcounts => hexp hcounts.2, h]
    exact ⟨[], by simp, (List.append_nil _).symm⟩
  · rw [hl.expects_eq hmem, decide_eq_true_iff] at hexp
    rw [if_pos ⟨page_mem_outstanding.mpr hmem, hexp⟩, h, mergePage_eq]
    refine ⟨if ticket.page = 1 && l.seeded
        then [.replaced ((l.withoutPage ticket).merged ticket.page stories).stories]
        else addedEvents ((l.withoutPage ticket).addedBy ticket.page stories),
      fun event hevent => ?_, ?_⟩
    · split at hevent
      · rw [List.mem_singleton.mp hevent]
        rfl
      · exact isNote_of_mem_addedEvents hevent
    · rw [← List.append_assoc]
      rfl
  · rw [hl.expects_eq hmem, decide_eq_true_iff] at hexp
    rw [if_pos ⟨page_mem_outstanding.mpr hmem, hexp⟩, h, failPage_eq]
    obtain ⟨told, htold, hevents⟩ : ∃ told : List Event, (∀ event ∈ told, event.isNote = false) ∧
        ((l.withoutPage ticket).afterFailure ticket.page cause).events = l.events ++ told := by
      unfold afterFailure
      split
      · rw [loadOffline_eq]
        exact ⟨_, fun event => isNote_of_mem_addedEvents, rfl⟩
      · exact ⟨[], by simp, (List.append_nil _).symm⟩
    refine ⟨told, htold, ?_⟩
    rw [← List.append_assoc, ← hevents]

theorem sendsNotes_complete_flag (hl : Reachable l) (number : Nat)
    (result : Except FetchError Unit) : SendsNotes l (.complete (.flag number result)) := by
  rw [SendsNotes, notes_complete_flag, step]
  cases hfind : l.pendingChange? number with
  | none =>
    have hout : .flag number ∉ l.outstanding := fun hmem => by
      obtain ⟨pending, hpending⟩ := exists_pendingChange? hmem
      rw [hfind] at hpending
      cases hpending
    have hnone : l.errorOf? (.flag number result) = none := by
      cases result with
      | ok _ => rfl
      | error cause => exact if_neg hout
    rw [hnone, l.complete_flag_of_unknown hfind]
    exact ⟨[], by simp, (List.append_nil _).symm⟩
  | some pending =>
    obtain rfl : pending.number = number := by simpa using List.find?_some hfind
    cases result with
    | ok _ =>
      rw [l.complete_flag_of_ok hfind]
      refine ⟨[], by simp, ?_⟩
      split <;> exact (List.append_nil _).symm
    | error cause =>
      rw [hl.errorOf?_flag (List.mem_of_find?_eq_some hfind), l.complete_flag_of_error hfind cause]
      split
      · rw [takeBack_eq]
        refine ⟨changedEvents pending.change pending.targets l.collection,
          fun event => isNote_of_mem_changedEvents, ?_⟩
        rw [← List.append_assoc]
        rfl
      · exact ⟨[], by simp, rfl⟩

/-- **What an act reports ends with its notes**, and the rest is about stories. -/
theorem sendsNotes (hl : Reachable l) (act : Act) : SendsNotes l act := by
  cases act with
  | reset context =>
    have hnotes : l.notes (.reset context) = [.fetchState (l.beginning context).fetch] := by
      simp [notes, levelSet?, movesStream, errorAt?, step, reset_eq, loadOffline_eq, announce, emit]
    refine ⟨addedEvents (l.beginning context).newlyOffered,
      fun event => isNote_of_mem_addedEvents, ?_⟩
    rw [hnotes]
    simp only [step, reset_eq, loadOffline_eq, announce, emit, List.append_assoc]
    rfl
  | loadOffline =>
    refine ⟨addedEvents l.newlyOffered, fun event => isNote_of_mem_addedEvents, ?_⟩
    rw [step, loadOffline_eq]
    exact congrArg _ (List.append_nil _).symm
  | changeLevel level => exact ⟨[], by simp, rfl⟩
  | useCache cache => exact ⟨[], by simp, (List.append_nil _).symm⟩
  | requestPage =>
    refine ⟨[], by simp, ?_⟩
    cases hidle : l.fetch.isIdle with
    | false => simp [step, notes, levelSet?, movesStream, errorAt?, l.requestPage_of_busy hidle]
    | true => simp [step, notes, levelSet?, movesStream, errorAt?, l.requestPage_of_idle hidle]
  | mark change id =>
    cases hfind : l.collection.find? id with
    | none =>
      refine ⟨[], by simp, ?_⟩
      rw [step, l.mark_of_unknown change hfind]
      exact (List.append_nil _).symm
    | some story =>
      by_cases hset : change.get story = change.target
      · refine ⟨[], by simp, ?_⟩
        rw [step, l.mark_of_set hfind hset]
        exact (List.append_nil _).symm
      · refine ⟨[.changed (change.set change.target story)], by simp [Event.isNote], ?_⟩
        rw [step, l.mark_of_unset hfind hset]
        rfl
  | markAllRead =>
    refine
      ⟨changedEvents .markAllRead (l.collection.unreadIds.map fun id => (id, true)) l.collection,
      fun event => isNote_of_mem_changedEvents, ?_⟩
    rw [step, markAllRead_eq]
    exact congrArg _ (List.append_nil _).symm
  | complete completion =>
    cases completion with
    | page ticket result => exact sendsNotes_complete_page hl ticket result
    | flag number result => exact sendsNotes_complete_flag hl number result

/-- What is read off the reports of an act is read off its notes, unless it is about stories. -/
theorem filterMap_reports (hl : Reachable l) (act : Act) {α : Type} {f : Event → Option α}
    (hf : ∀ event : Event, event.isNote = false → f event = none) :
    (reports (l, act)).filterMap f = (l.notes act).filterMap f := by
  obtain ⟨told, htold, hevents⟩ := sendsNotes hl act
  rw [reports_eq hevents, List.filterMap_append, Event.filterMap_eq_nil_of_stories hf htold,
    List.nil_append]

/-! ### Every failure is reported once -/

/-- **An act reports the failure that it brings**, and no other error. -/
theorem errors_reports (hl : Reachable l) (act : Act) :
    (reports (l, act)).filterMap Event.error? = (errorAt? (l, act)).toList := by
  rw [filterMap_reports hl act Event.error?_of_stories, notes, List.filterMap_append,
    List.filterMap_append]
  cases levelSet? act <;> cases l.movesStream act <;> cases errorAt? (l, act) <;> rfl

theorem errors_run (hl : Reachable l) (acts : List Act) :
    (l.run acts).events.filterMap Event.error? =
      l.events.filterMap Event.error? ++ (l.history acts).filterMap errorAt? := by
  induction acts using List.reverseRecOn with
  | nil => simp [history]
  | append_singleton acts act ih =>
    rw [run_append, run_cons, run_nil, events_step (hl.run acts) act, List.filterMap_append, ih,
      errors_reports (hl.run acts) act, filterMap_history_concat, List.append_assoc]

/-- **The caller is told the same error as the presenter.** -/
theorem Reachable.error?_complete (hl : Reachable l) (completion : Completion) :
    (l.complete completion).2.error? = l.errorOf? completion := by
  by_cases hout : completion.requestId ∈ l.outstanding
  swap
  · rw [complete_of_not_outstanding hout]
    cases completion with
    | page ticket result =>
      cases result with
      | ok stories => rfl
      | error cause => exact (if_neg fun h => hout h.1).symm
    | flag number result =>
      cases result with
      | ok _ => rfl
      | error cause => exact (if_neg hout).symm
  cases completion with
  | page ticket result =>
    have hmem := page_mem_outstanding.mp hout
    have hexp := hl.expects_eq hmem
    by_cases hcurrent : ticket.generation = l.generation
    · rw [decide_eq_true hcurrent] at hexp
      cases result with
      | ok stories =>
        rw [l.complete_page_of_ok hmem hexp]
        rfl
      | error cause =>
        rw [l.complete_page_of_error hmem hexp]
        exact (if_pos ⟨hout, hcurrent⟩).symm
    · rw [decide_eq_false hcurrent] at hexp
      rw [l.complete_page_of_stale hmem hexp]
      cases result with
      | ok stories => rfl
      | error cause => exact (if_neg fun h => hcurrent h.2).symm
  | flag number result =>
    obtain ⟨pending, hfind⟩ := exists_pendingChange? hout
    obtain rfl : pending.number = number := by simpa using List.find?_some hfind
    cases result with
    | ok _ =>
      rw [l.complete_flag_of_ok hfind]
      rfl
    | error cause =>
      rw [l.complete_flag_of_error hfind, hl.errorOf?_flag (List.mem_of_find?_eq_some hfind)]
      rfl

/-- **Every failure is reported exactly once.** In whatever run of a new loader, the errors on
record are the failures that its acts have brought, one for each and in their order: one with its
number for a page of the current generation, one for a flag change of any generation, with the
change and the story that the server was asked to change, and none for anything else. No flag change
fails in silence. A completion is answered with an error exactly if an error is reported for it, and
it is the same. -/
theorem failures_reported (context : Context) (cache : Cache) (pageSize : Nat) (acts : List Act) :
    let start := Loader.new context cache pageSize
    let l := start.run acts
    l.events.filterMap Event.error? = (start.history acts).filterMap errorAt? ∧
      (∀ act, (reports (l, act)).filterMap Event.error? = (errorAt? (l, act)).toList) ∧
      (∀ number cause, .flag number ∈ l.outstanding →
        ∃ change story, l.askedFor? number = some (change, story) ∧
          l.errorOf? (.flag number (.error cause)) = some (.changeFailed story change cause)) ∧
      ∀ completion,
        (reports (l, .complete completion)).filterMap Event.error? =
          (l.complete completion).2.error?.toList := by
  intro start l
  have hstart : Reachable start := .new context cache pageSize
  have hl : Reachable l := hstart.run acts
  refine ⟨errors_run hstart acts, errors_reports hl, ?_, ?_⟩
  · intro number cause hout
    obtain ⟨pending, hmem, rfl⟩ := flag_mem_outstanding.mp hout
    exact ⟨pending.change, namedStory pending, hl.askedFor?_of_pending pending hmem,
      hl.errorOf?_flag hmem cause⟩
  · intro completion
    rw [hl.error?_complete completion]
    exact errors_reports hl (.complete completion)

/-! ### The state of the stream is known -/

/-- **An act reports the state of the stream as it leaves it**, if it has to do with it. -/
theorem states_reports (hl : Reachable l) (act : Act) :
    (reports (l, act)).filterMap Event.fetchState? =
      if l.movesStream act then [(l.step act).fetch] else [] := by
  rw [filterMap_reports hl act Event.fetchState?_of_stories, notes, List.filterMap_append,
    List.filterMap_append]
  cases levelSet? act <;> cases l.movesStream act <;> cases errorAt? (l, act) <;> rfl

/-- Other acts leave the state of the stream alone. -/
theorem fetch_step_of_not_movesStream (hl : Reachable l) {act : Act}
    (h : l.movesStream act = false) : (l.step act).fetch = l.fetch := by
  cases act with
  | reset context => cases h
  | loadOffline => rw [step, loadOffline_eq]
  | changeLevel level => rfl
  | useCache cache => rfl
  | mark change id => exact (l.samePlace_mark change id).fetch
  | markAllRead => exact l.samePlace_markAllRead.fetch
  | requestPage =>
    cases hidle : l.fetch.isIdle with
    | false => rw [step, l.requestPage_of_busy hidle]
    | true =>
      rw [movesStream, l.requestPage_of_idle hidle] at h
      cases h
  | complete completion =>
    cases completion with
    | flag number result => exact (l.samePlace_complete_flag number result).fetch
    | page ticket result =>
      rw [step]
      by_cases hmem : ticket ∈ l.pendingPages
      · have hold : ticket.generation ≠ l.generation := fun hcurrent =>
          of_decide_eq_false h ⟨page_mem_outstanding.mpr hmem, hcurrent⟩
        have hexp := hl.expects_eq hmem
        rw [decide_eq_false hold] at hexp
        rw [l.complete_page_of_stale hmem hexp]
        rfl
      · rw [l.complete_page_of_unknown hmem]

/-- The state that was reported last is the state of the stream. -/
theorem Reachable.last_state (hl : Reachable l) :
    (l.events.filterMap Event.fetchState?).getLast?.getD .start = l.fetch := by
  induction hl with
  | new context cache pageSize => rfl
  | @step l act hl ih =>
    rw [events_step hl act, List.filterMap_append, states_reports hl act]
    cases hmoves : l.movesStream act with
    | true => simp
    | false => simpa [fetch_step_of_not_movesStream hl hmoves] using ih

/-- **The presenter always knows how far the stream has been fetched.** In every run of a new loader
the state that was reported last, or the state in which a stream begins if none has been reported,
is the one that the stream has. The next act reports the state once, as it then is, if it begins a
stream, asks for a page, or completes a page of the current generation, in whichever way; no other
act reports one, and none changes it in silence. -/
theorem fetchState_known (context : Context) (cache : Cache) (pageSize : Nat) (acts : List Act) :
    let l := (Loader.new context cache pageSize).run acts
    (l.events.filterMap Event.fetchState?).getLast?.getD .start = l.fetch ∧
      ∀ act,
        (reports (l, act)).filterMap Event.fetchState? =
            (if l.movesStream act then [(l.step act).fetch] else []) ∧
          (l.movesStream act = false → (l.step act).fetch = l.fetch) := by
  intro l
  have hl : Reachable l := (Reachable.new context cache pageSize).run acts
  exact ⟨hl.last_state, fun act => ⟨states_reports hl act, fetch_step_of_not_movesStream hl⟩⟩

end Loader

end FeedReader
