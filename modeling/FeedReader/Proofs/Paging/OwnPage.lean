import FeedReader.Proofs.Paging.FailedPage

/-!
# A fetch answers for its own page

Whoever fetches a page waits for it, and whatever else is completed meanwhile is applied as it
comes: pages of streams that have been left, and flag changes. **The outcome of a fetch is that of
the page it has asked for** (`FeedReader.Loader.fetchPage_own_page`). What is completed behind this
page stays where it is, and a fetch that asks for nothing applies nothing.

Two things make the page the right one. An idle loader waits for no page of its generation, so the
ticket of the request is not the ticket of an earlier attempt that may still be completed. And what
is completed before the page neither removes it nor begins another stream
(`FeedReader.Loader.IsAwaited.complete`), so the page is expected when it comes, and it is never
discarded.
-/

namespace FeedReader

namespace Loader

variable {l : Loader} {ticket : Ticket}

/-! ### A page that is waited for -/

/-- The loader waits for a page of the stream that it is in. -/
structure IsAwaited (l : Loader) (ticket : Ticket) : Prop where
  pending : ticket ∈ l.pendingPages
  current : ticket.generation = l.generation

/-- What becomes of a page that is expected: it is loaded, or it has failed. -/
def outcomeOf (l : Loader) (ticket : Ticket) :
    Except FetchError (List Story) → Except PagingError PageOutcome
  | .ok stories =>
    .ok (.loaded (l.addedBy ticket.page stories).length (l.isLast ticket.page stories))
  | .error cause => .error (.pageFailed ticket.page cause)

namespace IsAwaited

/-- **Other completions leave a page waited for.** -/
theorem complete (h : IsAwaited l ticket) {completion : Completion}
    (hother : completion.requestId ≠ .page ticket) :
    IsAwaited (l.complete completion).1 ticket := by
  constructor
  · cases completion with
    | page answered result =>
      have hne : ticket ≠ answered := fun heq => hother (congrArg RequestId.page heq.symm)
      rw [pendingPages_complete_page]
      exact (List.mem_erase_of_ne hne).mpr h.pending
    | flag number result =>
      rw [(l.samePlace_complete_flag number result).pendingPages]
      exact h.pending
  · have hgen := l.step_generation (.complete completion)
    exact h.current.trans hgen.symm

theorem run (h : IsAwaited l ticket) {before : List Completion}
    (hothers : ∀ completion ∈ before, completion.requestId ≠ .page ticket) :
    IsAwaited (l.run (before.map .complete)) ticket := by
  induction before generalizing l with
  | nil => exact h
  | cons completion before ih =>
    obtain ⟨hother, hothers⟩ := List.forall_mem_cons.mp hothers
    exact ih (h.complete hother) hothers

/-- A page that is waited for is not discarded when it comes. -/
theorem complete_own (h : IsAwaited l ticket) (hl : Reachable l)
    (result : Except FetchError (List Story)) :
    (l.complete (.page ticket result)).2 = .page ticket (l.outcomeOf ticket result) := by
  obtain ⟨merges, horder⟩ := hl.pagesInOrder
  have hexp : l.expects ticket = true := horder.expects_of_current h.pending h.current
  cases result with
  | ok stories =>
    rw [l.complete_page_of_ok h.pending hexp, mergePage_eq]
    rfl
  | error cause =>
    rw [l.complete_page_of_error h.pending hexp]
    rfl

end IsAwaited

/-! ### Waiting -/

/-- A completion of another request is applied, and the waiting goes on. -/
theorem awaitPage_other {completion : Completion} (hother : completion.requestId ≠ .page ticket)
    (rest : List Completion) :
    l.awaitPage ticket (completion :: rest) =
      (l.complete completion).1.awaitPage ticket rest := by
  cases completion with
  | page answered result =>
    have hne : answered ≠ ticket := fun heq => hother (congrArg RequestId.page heq)
    by_cases hmem : answered ∈ l.pendingPages
    · rw [awaitPage, l.complete_page_of_mem hmem]
      exact if_neg hne
    · rw [awaitPage, l.complete_page_of_unknown hmem]
  | flag number result =>
    cases hfind : l.pendingChange? number with
    | none => rw [awaitPage, l.complete_flag_of_unknown hfind]
    | some pending =>
      cases result with
      | ok _ => rw [awaitPage, l.complete_flag_of_ok hfind]
      | error cause => rw [awaitPage, l.complete_flag_of_error hfind]

theorem awaitPage_append {before : List Completion}
    (hothers : ∀ completion ∈ before, completion.requestId ≠ .page ticket)
    (rest : List Completion) :
    l.awaitPage ticket (before ++ rest) = (l.run (before.map .complete)).awaitPage ticket rest := by
  induction before generalizing l with
  | nil => rfl
  | cons completion before ih =>
    obtain ⟨hother, hothers⟩ := List.forall_mem_cons.mp hothers
    rw [List.cons_append, awaitPage_other hother, ih hothers]
    rfl

/-- The waiting ends when the page comes, and what comes behind it is left. -/
theorem awaitPage_own (h : IsAwaited l ticket) (hl : Reachable l)
    (result : Except FetchError (List Story)) (later : List Completion) :
    l.awaitPage ticket (.page ticket result :: later) =
      ((l.complete (.page ticket result)).1, some (l.outcomeOf ticket result), later) := by
  have hown : l.complete (.page ticket result) =
      ((l.complete (.page ticket result)).1, .page ticket (l.outcomeOf ticket result)) :=
    Prod.ext rfl (h.complete_own hl result)
  rw [awaitPage, hown]
  exact if_pos rfl

/-- Nothing is asked for while completions are applied. -/
theorem requests_run_complete (completions : List Completion) :
    (l.run (completions.map .complete)).requests = l.requests := by
  induction completions generalizing l with
  | nil => rfl
  | cons completion completions ih => exact ih.trans (l.requests_complete completion)

/-- The first completion of a page among those that arrive. -/
theorem exists_first_completion {arriving : List Completion}
    (h : .page ticket ∈ arriving.map Completion.requestId) :
    ∃ before result later, arriving = before ++ .page ticket result :: later ∧
      ∀ completion ∈ before, completion.requestId ≠ .page ticket := by
  obtain ⟨ids, ids', hids, hnot⟩ := List.eq_append_cons_of_mem h
  obtain ⟨before, rest, rfl, rfl, hrest⟩ := List.map_eq_append_iff.mp hids
  obtain ⟨completion, later, rfl, hown, -⟩ := List.map_eq_cons_iff.mp hrest
  cases completion with
  | flag number result => cases hown
  | page answered result =>
    obtain rfl : answered = ticket := RequestId.page.inj hown
    exact ⟨before, result, later, rfl, fun completion hmem heq =>
      hnot (heq ▸ List.mem_map_of_mem hmem)⟩

/-! ### Fetching a page -/

/-- The loader waits for the page that it asks for, and did not wait for it before. -/
theorem isAwaited_requestPage (hl : Reachable l) (hidle : l.fetch.isIdle = true) :
    IsAwaited l.requestPage.1 l.nextTicket ∧ .page l.nextTicket ∉ l.outstanding := by
  constructor
  · rw [l.requestPage_of_idle hidle]
    exact ⟨List.mem_append_right _ (List.mem_singleton.mpr rfl), rfl⟩
  · intro hmem
    exact (hl.resting hidle).stale _ (page_mem_outstanding.mp hmem) rfl

theorem fetchPage_of_idle (hidle : l.fetch.isIdle = true) (arriving : List Completion) :
    l.fetchPage arriving = l.requestPage.1.awaitPage l.nextTicket arriving := by
  rw [fetchPage, l.requestPage_of_idle hidle]

/-- A loader that is busy says why it does not fetch, and does nothing else. -/
theorem fetchPage_of_busy (hl : Reachable l) (hbusy : l.fetch.isIdle = false)
    (arriving : List Completion) :
    ∃ reason, l.fetchPage arriving = (l, some (.ok (.skipped reason)), arriving) ∧
      (reason = .fetching ↔ l.fetch.fetching = true) ∧
      (reason = .finished ↔ l.fetch.finished = true) := by
  obtain ⟨merges, horder⟩ := hl.pagesInOrder
  refine ⟨l.skipReason?.getD .fetching, by rw [fetchPage, l.requestPage_of_busy hbusy], ?_⟩
  have hnot := horder.not_both
  cases hfetching : l.fetch.fetching with
  | true => simp_all [skipReason?]
  | false =>
    have hfinished : l.fetch.finished = true := by
      simpa [FetchState.isIdle, hfetching] using hbusy
    simp [skipReason?, hfetching, hfinished]

/-- **A fetch answers for its own page.** A loader that is not idle asks for nothing, applies
nothing and says why: it is fetching, or it has finished. An idle one asks for the next page, for
which it did not wait before, and for nothing else. Whatever is completed then is applied in its
order, up to the first completion of that page, and what comes behind is left. The outcome is that
of the page: it has been loaded if the server has sent it, and has failed with the number of the
page if not. As long as the page has not come there is no outcome. -/
theorem fetchPage_own_page (hl : Reachable l) (arriving : List Completion) :
    (l.fetch.isIdle = false →
      ∃ reason, l.fetchPage arriving = (l, some (.ok (.skipped reason)), arriving) ∧
        (reason = .fetching ↔ l.fetch.fetching = true) ∧
        (reason = .finished ↔ l.fetch.finished = true)) ∧
    (l.fetch.isIdle = true →
      let asked := l.requestPage.1
      l.requestPage.2 = some l.nextTicket ∧ .page l.nextTicket ∉ l.outstanding ∧
      (l.fetchPage arriving).1.requests = l.requests ++ [.page l.nextTicket] ∧
      if .page l.nextTicket ∈ arriving.map Completion.requestId then
        ∃ before result later, arriving = before ++ .page l.nextTicket result :: later ∧
          (∀ completion ∈ before, completion.requestId ≠ .page l.nextTicket) ∧
          let waiting := asked.run (before.map .complete)
          let outcome := waiting.outcomeOf l.nextTicket result
          (waiting.complete (.page l.nextTicket result)).2 = .page l.nextTicket outcome ∧
          l.fetchPage arriving =
            ((waiting.complete (.page l.nextTicket result)).1, some outcome, later)
      else l.fetchPage arriving = (asked.run (arriving.map .complete), none, [])) := by
  refine ⟨fun hbusy => fetchPage_of_busy hl hbusy arriving, fun hidle => ?_⟩
  intro asked
  have hasked : Reachable asked := hl.step .requestPage
  obtain ⟨hawaited, hnew⟩ := isAwaited_requestPage hl hidle
  have hrequests : asked.requests = l.requests ++ [.page l.nextTicket] := by
    rw [show asked = l.requestPage.1 from rfl, l.requestPage_of_idle hidle]
  have hfetch := fetchPage_of_idle hidle arriving
  refine ⟨by rw [l.requestPage_of_idle hidle], hnew, ?_⟩
  split
  · next hcomes =>
    obtain ⟨before, result, later, rfl, hothers⟩ := exists_first_completion hcomes
    have hwaiting : Reachable (asked.run (before.map .complete)) := hasked.run _
    rw [awaitPage_append hothers, awaitPage_own (hawaited.run hothers) hwaiting] at hfetch
    refine ⟨?_, before, result, later, rfl, hothers,
      (hawaited.run hothers).complete_own hwaiting result, hfetch⟩
    rw [hfetch, requests_complete, requests_run_complete, hrequests]
  · next hmissing =>
    have hothers : ∀ completion ∈ arriving, completion.requestId ≠ .page l.nextTicket :=
      fun completion hmem heq => hmissing (heq ▸ List.mem_map_of_mem hmem)
    have hwait := awaitPage_append (l := asked) hothers []
    rw [List.append_nil] at hwait
    rw [hwait] at hfetch
    refine ⟨?_, hfetch⟩
    rw [hfetch, awaitPage, requests_run_complete, hrequests]

/-- A loader of two streams. A page of the stream that was left has not come yet, nor has the answer
to a flag change. The second page of the other stream has failed. -/
def failedOnce : Loader :=
  leftWaiting.run
    [.requestPage, .complete (.page ⟨2, { source := .feed 2 }, 2⟩ (.error .timeout))]

/-- The page of the stream that was left comes before the one that is asked for, and the answer to
the flag change behind it. -/
def outOfOrder : List Completion :=
  [.page ⟨1, { source := .feed 1 }, 1⟩ (.ok [{ id := ⟨"1:a"⟩, feedId := 1, title := "" }]),
    .page ⟨2, { source := .feed 2 }, 2⟩ (.ok [{ id := ⟨"2:b"⟩, feedId := 2, title := "b" }]),
    .flag 0 (.ok ())]

/-- The second page is asked for again, with the ticket that has failed, and is loaded. The page of
the other stream has been dropped, and the answer is still to be applied. -/
theorem fetchPage_own_page_failedOnce :
    let fetched := failedOnce.fetchPage outOfOrder
    Reachable failedOnce ∧ failedOnce.fetch.isIdle = true ∧
      fetched.1.collection.ids = [⟨"2:a"⟩, ⟨"2:b"⟩] ∧ fetched.1.outstanding = [.flag 0] ∧
      fetched.2.1 = some (.ok (.loaded 1 false)) ∧
      fetched.2.2.map Completion.requestId = [.flag 0] := by
  intro fetched
  have hreachable : Reachable failedOnce := ((Reachable.new _ _ _).run _).run _
  have hidle : failedOnce.fetch.isIdle = true := by decide +kernel
  have hticket : failedOnce.nextTicket = ⟨2, { source := .feed 2 }, 2⟩ := by decide +kernel
  obtain ⟨-, -, -, hfetch⟩ := (fetchPage_own_page hreachable outOfOrder).2 hidle
  rw [hticket, if_pos (by decide)] at hfetch
  obtain ⟨before, result, later, harriving, hothers, -, hfetched⟩ := hfetch
  rw [outOfOrder] at harriving
  -- The page comes second, and nothing before it has its ticket.
  rcases before with _ | ⟨first, _ | ⟨second, _ | ⟨third, before⟩⟩⟩
  · simp at harriving
  · obtain ⟨rfl, rfl, rfl⟩ : _ ∧ _ ∧ _ := by simpa using harriving
    refine ⟨hreachable, hidle, ?_⟩
    rw [show fetched = _ from hfetched]
    decide +kernel
  · simp at harriving
  · simp at harriving

end Loader

end FeedReader
