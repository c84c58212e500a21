import FeedReader.Proofs.Paging.Outstanding
import FeedReader.Proofs.Paging.Past

/-!
# A page that fails leaves no trace

A loader asks for a page, and before the server answers the user goes on: flags are changed and the
changes are answered, the level is changed, the cache is asked again, and pages of streams that have
been left arrive. Then the page fails. **Everything is as if the page had never been asked for**,
but for what has been reported and for the request that is on record
(`FeedReader.Loader.failed_page_leaves_no_trace`). The next request is for the same page.

The loader that waits for the page is compared with one that does not, act by act. The two differ in
that one of them is fetching and has one ticket more, as `FeedReader.Loader.awaiting` says, and none
of the acts in question looks at either. The first page is another matter when the server cannot be
reached: the reader then goes offline.
-/

namespace FeedReader

/-- Whether an act leaves the requests for pages of the current stream alone: it begins no stream,
asks for no page and does not answer the one with the given ticket. -/
def Act.sparesPage (ticket : Ticket) : Act → Bool
  | reset _ | requestPage => false
  | complete (.page answered _) => answered ≠ ticket
  | _ => true

namespace Loader

/-- The loader as it is while it waits for one more page, with the given requests and reports on
record. -/
def awaiting (l : Loader) (ticket : Ticket) (requests : List Request) (events : List Event) :
    Loader :=
  { l with
    fetch := { l.fetch with fetching := true }
    pendingPages := l.pendingPages ++ [ticket]
    requests
    events }

/-- A loader has become `l'`, and the same loader waiting for one more page has become `there`: both
have asked for the same and reported the same. -/
def Abreast (ticket : Ticket) (requests : List Request) (events : List Event)
    (l l' there : Loader) : Prop :=
  ∃ asked reported, l'.requests = l.requests ++ asked ∧ l'.events = l.events ++ reported ∧
    there = l'.awaiting ticket (requests ++ asked) (events ++ reported)

/-- A stream that is not being fetched: no page of it is waited for. -/
structure Resting (l : Loader) : Prop where
  fetching : l.fetch.fetching = false
  stale : ∀ ticket ∈ l.pendingPages, ticket.generation ≠ l.generation

/-- Two loaders of one stream that is as far as it was. -/
structure SameStream (l l' : Loader) : Prop where
  fetch : l'.fetch = l.fetch
  generation : l'.generation = l.generation
  source : l'.context.source = l.context.source

theorem SameStream.refl (l : Loader) : SameStream l l := ⟨rfl, rfl, rfl⟩

theorem SameStream.trans {l l' l'' : Loader} (h : SameStream l l') (h' : SameStream l' l'') :
    SameStream l l'' :=
  ⟨h'.fetch.trans h.fetch, h'.generation.trans h.generation, h'.source.trans h.source⟩

/-- The next page of the stream is the same one, at the level at which it is shown by then. -/
theorem SameStream.nextTicket {l l' : Loader} (h : SameStream l l') :
    l'.nextTicket =
      { l.nextTicket with
        context := { l.nextTicket.context with level := l'.context.level } } := by
  have hcontext : l'.context = { l.context with level := l'.context.level } := by
    simp only [← h.source]
  rw [Loader.nextTicket, Loader.nextTicket, h.generation, h.fetch]
  exact congrArg (Ticket.mk l.generation · (l.fetch.page + 1)) hcontext

theorem SamePlace.sameStream {l l' : Loader} (h : SamePlace l l') : SameStream l l' :=
  ⟨h.fetch, h.generation, congrArg Context.source h.context⟩

variable {ticket : Ticket} {requests : List Request} {events : List Event} {l l' : Loader}

theorem Resting.of_sublist (h : Resting l) (hstream : SameStream l l')
    (hpages : l'.pendingPages.Sublist l.pendingPages) : Resting l' where
  fetching := by rw [hstream.fetch, h.fetching]
  stale answered hmem := by
    rw [hstream.generation]
    exact h.stale answered (hpages.subset hmem)

/-- An idle stream waits for no page of it. -/
theorem Reachable.resting (hl : Reachable l) (hidle : l.fetch.isIdle = true) : Resting l := by
  obtain ⟨merges, hpages⟩ := hl.pagesInOrder
  simp only [FetchState.isIdle, Bool.and_eq_true, Bool.not_eq_true'] at hidle
  refine ⟨hidle.1, fun answered hmem hgen => ?_⟩
  have hnone := hpages.pendingOf_current
  rw [hidle.1, pendingOf_eq_add l hmem, if_pos hgen] at hnone
  simp at hnone

namespace Abreast

/-- Nothing has been asked for. -/
theorem of_reports {there : Loader} {reported : List Event} (hrequests : l'.requests = l.requests)
    (hevents : l'.events = l.events ++ reported)
    (hthere : there = l'.awaiting ticket requests (events ++ reported)) :
    Abreast ticket requests events l l' there :=
  ⟨[], reported, by simp [hrequests], hevents, by simp [hthere]⟩

theorem refl (l : Loader) :
    Abreast ticket requests events l l (l.awaiting ticket requests events) :=
  of_reports rfl (List.append_nil _).symm (by simp)

theorem emit {there : Loader} (h : Abreast ticket requests events l l' there) (event : Event) :
    Abreast ticket requests events l (l'.emit event) (there.emit event) := by
  obtain ⟨asked, reported, hasked, hreported, rfl⟩ := h
  exact ⟨asked, reported ++ [event], hasked, by simp [Loader.emit, hreported],
    by simp [Loader.emit, awaiting]⟩

end Abreast

/-! ### Each act -/

variable (ticket requests events l)

theorem awaiting_loadOffline :
    Abreast ticket requests events l l.loadOffline.1
      (l.awaiting ticket requests events).loadOffline.1 := by
  rw [l.loadOffline_eq, (l.awaiting ticket requests events).loadOffline_eq]
  exact .of_reports rfl rfl rfl

theorem awaiting_mark (change : FlagChange) (id : StoryId) :
    Abreast ticket requests events l (l.mark change id).1
      ((l.awaiting ticket requests events).mark change id).1 := by
  cases hfind : l.collection.find? id with
  | none =>
    rw [l.mark_of_unknown change hfind,
      (l.awaiting ticket requests events).mark_of_unknown change hfind]
    exact .refl l
  | some story =>
    by_cases hset : change.get story = change.target
    · rw [l.mark_of_set hfind hset, (l.awaiting ticket requests events).mark_of_set hfind hset]
      exact .refl l
    · rw [l.mark_of_unset hfind hset,
        (l.awaiting ticket requests events).mark_of_unset hfind hset]
      exact ⟨_, _, rfl, rfl, rfl⟩

theorem awaiting_markAllRead :
    Abreast ticket requests events l l.markAllRead.1
      (l.awaiting ticket requests events).markAllRead.1 := by
  rw [l.markAllRead_eq, (l.awaiting ticket requests events).markAllRead_eq]
  exact ⟨_, _, rfl, rfl, rfl⟩

theorem awaiting_complete_flag (number : Nat) (result : Except FetchError Unit) :
    Abreast ticket requests events l (l.complete (.flag number result)).1
      ((l.awaiting ticket requests events).complete (.flag number result)).1 := by
  have hsame : (l.awaiting ticket requests events).pendingChange? number =
      l.pendingChange? number := rfl
  cases hfind : l.pendingChange? number with
  | none =>
    rw [l.complete_flag_of_unknown hfind, complete_flag_of_unknown _ (hsame.trans hfind)]
    exact .refl l
  | some pending =>
    have hgen : (l.awaiting ticket requests events).generation = l.generation := rfl
    cases result with
    | ok _ =>
      rw [l.complete_flag_of_ok hfind, complete_flag_of_ok _ (hsame.trans hfind), hgen]
      split
      · exact .refl ((l.withoutChange number).confirm pending)
      · exact .refl (l.withoutChange number)
    | error cause =>
      rw [l.complete_flag_of_error hfind, complete_flag_of_error _ (hsame.trans hfind), hgen]
      refine Abreast.emit ?_ _
      split
      · rw [takeBack_eq, takeBack_eq]
        exact .of_reports rfl rfl rfl
      · exact .refl (l.withoutChange number)

variable {l}

/-- The page of a stream that has been left. -/
theorem awaiting_complete_page (h : Resting l) {answered : Ticket} (hne : answered ≠ ticket)
    (result : Except FetchError (List Story)) :
    Abreast ticket requests events l (l.complete (.page answered result)).1
      ((l.awaiting ticket requests events).complete (.page answered result)).1 := by
  by_cases hgen : answered.generation = l.generation
  · have hunknown : answered ∉ l.pendingPages := fun hmem => h.stale answered hmem hgen
    have hunknown' : answered ∉ (l.awaiting ticket requests events).pendingPages := by
      simp [awaiting, hunknown, hne]
    rw [l.complete_page_of_unknown hunknown, complete_page_of_unknown _ hunknown']
    exact .refl l
  · have herase : (l.pendingPages ++ [ticket]).erase answered =
        l.pendingPages.erase answered ++ [ticket] := by
      by_cases hmem : answered ∈ l.pendingPages
      · exact List.erase_append_left _ hmem
      · rw [List.erase_append_right _ hmem, List.erase_of_not_mem hmem,
          List.erase_of_not_mem (by simpa using hne)]
    have hwithout : (l.awaiting ticket requests events).withoutPage answered =
        (l.withoutPage answered).awaiting ticket requests events := by
      simp [withoutPage, awaiting, herase]
    rw [complete_page_of_old (l := l) hgen,
      complete_page_of_old (l := l.awaiting ticket requests events) hgen, hwithout]
    exact .refl (l.withoutPage answered)

/-! ### Any act, and any number of them -/

/-- **An act that spares the page does not look at whether it is waited for.** -/
theorem step_awaiting (h : Resting l) {act : Act} (hact : act.sparesPage ticket = true) :
    Abreast ticket requests events l (l.step act)
      ((l.awaiting ticket requests events).step act) := by
  cases act with
  | reset context => cases hact
  | requestPage => cases hact
  | loadOffline => exact awaiting_loadOffline ticket requests events l
  | changeLevel level => exact .of_reports rfl rfl rfl
  | mark change id => exact awaiting_mark ticket requests events l change id
  | markAllRead => exact awaiting_markAllRead ticket requests events l
  | useCache cache => exact .refl { l with cache }
  | complete completion =>
    cases completion with
    | flag number result => exact awaiting_complete_flag ticket requests events l number result
    | page answered result =>
      exact awaiting_complete_page ticket requests events h (of_decide_eq_true hact) result

variable {ticket}

/-- An act that spares the page leaves a stream that rests where it is. -/
theorem Resting.step (h : Resting l) {act : Act} (hact : act.sparesPage ticket = true) :
    SameStream l (l.step act) ∧ (l.step act).pendingPages.Sublist l.pendingPages := by
  have hplace : ∀ {l'}, SamePlace l l' → SameStream l l' ∧ l'.pendingPages.Sublist l.pendingPages :=
    fun hsame => ⟨hsame.sameStream, by rw [hsame.pendingPages]⟩
  cases act with
  | reset context => cases hact
  | requestPage => cases hact
  | loadOffline =>
    rw [Loader.step, loadOffline_eq]
    exact ⟨⟨rfl, rfl, rfl⟩, .refl _⟩
  | changeLevel level => exact ⟨⟨rfl, rfl, rfl⟩, .refl _⟩
  | useCache cache => exact ⟨⟨rfl, rfl, rfl⟩, .refl _⟩
  | mark change id => exact hplace (l.samePlace_mark change id)
  | markAllRead => exact hplace l.samePlace_markAllRead
  | complete completion =>
    cases completion with
    | flag number result => exact hplace (l.samePlace_complete_flag number result)
    | page answered result =>
      by_cases hgen : answered.generation = l.generation
      · have hunknown : answered ∉ l.pendingPages := fun hmem => h.stale answered hmem hgen
        rw [Loader.step, l.complete_page_of_unknown hunknown]
        exact ⟨.refl l, .refl _⟩
      · rw [Loader.step, complete_page_of_old hgen]
        exact ⟨⟨rfl, rfl, rfl⟩, List.erase_sublist⟩

/-- **The loader that waits goes on as the one that does not**, whatever spares the page. -/
theorem run_awaiting (h : Resting l) {acts : List Act}
    (hacts : ∀ act ∈ acts, act.sparesPage ticket = true) :
    Abreast ticket requests events l (l.run acts) ((l.awaiting ticket requests events).run acts) ∧
      SameStream l (l.run acts) ∧ Resting (l.run acts) := by
  -- What the loader that waits has on record grows with the act, so it is generalized.
  induction acts generalizing l requests events with
  | nil => exact ⟨.refl l, .refl l, h⟩
  | cons act acts ih =>
    obtain ⟨hact, hrest⟩ := List.forall_mem_cons.mp hacts
    obtain ⟨hstream, hpages⟩ := h.step hact
    obtain ⟨asked, reported, hasked, hreported, hthere⟩ :=
      step_awaiting ticket requests events h hact
    obtain ⟨⟨asked', reported', hasked', hreported', hthere'⟩, hstream', hrests⟩ :=
      ih (requests ++ asked) (events ++ reported) (h.of_sublist hstream hpages) hrest
    refine ⟨⟨asked ++ asked', reported ++ reported', ?_, ?_, ?_⟩, hstream.trans hstream', hrests⟩
    · rw [run_cons, hasked', hasked, List.append_assoc]
    · rw [run_cons, hreported', hreported, List.append_assoc]
    · rw [run_cons, hthere, hthere', List.append_assoc, List.append_assoc]
      rfl

/-! ### The failure -/

/-- A loader that asks for a page when it is idle waits for one more page. -/
theorem requestPage_eq_awaiting (hidle : l.fetch.isIdle = true) :
    l.requestPage =
      (l.awaiting l.nextTicket (l.requests ++ [.page l.nextTicket])
        (l.events ++ [.fetchState { l.fetch with fetching := true }]), some l.nextTicket) :=
  l.requestPage_of_idle hidle

/-- **The failure of the page takes back that it was waited for**, unless the reader goes
offline. -/
theorem complete_awaiting (h : Resting l) (hgen : ticket.generation = l.generation)
    (hsource : ticket.context.source = l.context.source) {cause : FetchError}
    (hcause : ticket.page ≠ 1 ∨ cause.isConnectivity = false) :
    ((l.awaiting ticket requests events).complete (.page ticket (.error cause))).1 =
      { l with
        requests
        events := events ++ [.fetchState l.fetch, .error (.pageFailed ticket.page cause)] } := by
  have hmem : ticket ∈ (l.awaiting ticket requests events).pendingPages := by simp [awaiting]
  have hexp : (l.awaiting ticket requests events).expects ticket = true := by
    simp [expects, awaiting, hgen, Context.sameStream, hsource]
  -- No other ticket is of this generation, so the one that goes is the one that came.
  have hpages : (l.pendingPages ++ [ticket]).erase ticket = l.pendingPages := by
    rw [List.erase_append_right _ fun hmem => h.stale ticket hmem hgen]
    simp
  have hfetch : FetchState.fail { l.fetch with fetching := true } = l.fetch := by
    rw [FetchState.fail, ← h.fetching]
  have honline : (decide (ticket.page = 1) && cause.isConnectivity) = false := by
    rcases hcause with hlater | hreached
    · simp [hlater]
    · simp [hreached]
  rw [complete_page_of_error _ hmem hexp, failPage_eq, afterFailure, honline]
  simp [withoutPage, awaiting, hpages, hfetch]

/-- **A page that fails leaves no trace.** An idle loader asks for a page, and the page fails after
any acts that spare it. The loader then is what it would be after these acts alone, but for the
request and for three reports: that the page was being fetched, that it is not any more, and that it
failed. The next request is for the same page, at the level at which the stream is shown by then. -/
theorem failed_page_leaves_no_trace (hl : Reachable l) (hidle : l.fetch.isIdle = true)
    {acts : List Act} (hacts : ∀ act ∈ acts, act.sparesPage l.nextTicket = true)
    {cause : FetchError} (hcause : l.nextTicket.page ≠ 1 ∨ cause.isConnectivity = false) :
    let spared := l.run acts
    let failed :=
      ((l.requestPage.1.run acts).complete (.page l.nextTicket (.error cause))).1
    l.requestPage.2 = some l.nextTicket ∧
      (∃ requests events, spared.requests = l.requests ++ requests ∧
        spared.events = l.events ++ events ∧
        failed = { spared with
          requests := l.requests ++ [.page l.nextTicket] ++ requests
          events := l.events ++ [.fetchState { l.fetch with fetching := true }] ++ events ++
            [.fetchState spared.fetch, .error (.pageFailed l.nextTicket.page cause)] }) ∧
      failed.requestPage.2 =
        some { l.nextTicket with
          context := { l.nextTicket.context with level := failed.context.level } } := by
  intro spared failed
  have hrequest := requestPage_eq_awaiting hidle
  obtain ⟨⟨asked, reported, hasked, hreported, hthere⟩, hstream, hrests⟩ :=
    run_awaiting (l.requests ++ [.page l.nextTicket])
      (l.events ++ [.fetchState { l.fetch with fetching := true }]) (hl.resting hidle) hacts
  have hfailed : failed = { spared with
      requests := l.requests ++ [.page l.nextTicket] ++ asked
      events := l.events ++ [.fetchState { l.fetch with fetching := true }] ++ reported ++
        [.fetchState spared.fetch, .error (.pageFailed l.nextTicket.page cause)] } := by
    rw [← complete_awaiting _ _ hrests hstream.generation.symm hstream.source.symm hcause, ← hthere]
    change ((l.requestPage.1.run acts).complete _).1 = _
    rw [hrequest]
  have hsame : SameStream l failed := by
    rw [hfailed]
    exact ⟨hstream.fetch, hstream.generation, hstream.source⟩
  refine ⟨congrArg Prod.snd hrequest, ⟨asked, reported, hasked, hreported, hfailed⟩, ?_⟩
  rw [requestPage_eq_awaiting (hsame.fetch ▸ hidle), hsame.nextTicket]

/-- A loader of two streams. The first page of the stream that was left has not come yet. The first
page of the other one has, and a story of it has been saved. -/
def leftWaiting : Loader :=
  (Loader.new { source := .feed 1 } {} 1).run
    [.reset { source := .feed 1 }, .requestPage, .reset { source := .feed 2 }, .requestPage,
      .complete (.page ⟨2, { source := .feed 2 }, 1⟩
        (.ok [{ id := ⟨"2:a"⟩, feedId := 2, title := "a" }])),
      .mark .save ⟨"2:a"⟩]

/-- What comes between the request and its failure: the story is marked read, the two changes are
answered, and the page of the other stream comes at last. -/
def meanwhile : List Act :=
  [.mark .markRead ⟨"2:a"⟩, .complete (.flag 0 (.error .timeout)),
    .changeLevel .focus, .loadOffline,
    .complete (.page ⟨1, { source := .feed 1 }, 1⟩
      (.ok [{ id := ⟨"1:a"⟩, feedId := 1, title := "" }])),
    .complete (.flag 1 (.ok ()))]

/-- The second page fails because the server cannot be reached. The page of the other stream is not
waited for any more and only one change has been taken back, with or without the second page. -/
theorem failed_page_leaves_no_trace_leftWaiting :
    let failed := ((leftWaiting.requestPage.1.run meanwhile).complete
      (.page ⟨2, { source := .feed 2 }, 2⟩ (.error (.network (.unreachable "https://a.test"))))).1
    Reachable leftWaiting ∧
      leftWaiting.pendingPages = [⟨1, { source := .feed 1 }, 1⟩] ∧
      failed.pendingPages = [] ∧
      failed.fetch = leftWaiting.fetch ∧
      failed.collection.stories =
        [{ id := ⟨"2:a"⟩, feedId := 2, title := "a", read := true }] ∧
      failed.requestPage.2 = some ⟨2, { source := .feed 2, level := .focus }, 2⟩ := by
  have hreachable : Reachable leftWaiting := (Reachable.new _ _ _).run _
  obtain ⟨-, ⟨requests, events, -, -, hfailed⟩, hnext⟩ :=
    failed_page_leaves_no_trace hreachable (by decide +kernel)
      (show ∀ act ∈ meanwhile, act.sparesPage leftWaiting.nextTicket = true by decide +kernel)
      (show leftWaiting.nextTicket.page ≠ 1 ∨
        (FetchError.network (.unreachable "https://a.test")).isConnectivity = false by
          decide +kernel)
  have hticket : leftWaiting.nextTicket = ⟨2, { source := .feed 2 }, 2⟩ := by decide +kernel
  rw [hticket] at hfailed hnext
  have hpages : (leftWaiting.run meanwhile).pendingPages = [] := by decide +kernel
  have hfetch : (leftWaiting.run meanwhile).fetch = leftWaiting.fetch := by decide +kernel
  have hstories : (leftWaiting.run meanwhile).collection.stories =
      [{ id := ⟨"2:a"⟩, feedId := 2, title := "a", read := true }] := by
    decide +kernel
  exact ⟨hreachable, by decide +kernel, (congrArg pendingPages hfailed).trans hpages,
    (congrArg fetch hfailed).trans hfetch,
    (congrArg (·.collection.stories) hfailed).trans hstories, hnext.trans (by decide +kernel)⟩

end Loader

end FeedReader
