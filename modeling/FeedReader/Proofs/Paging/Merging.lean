import FeedReader.Proofs.Paging.Contents

/-!
# What a page does, and that nothing else does it

Of all the acts of a stream only a page that is merged moves the stream on: it counts a page,
and stories come with it. `FeedReader.Loader.Merged` is what such an act does, once and for all,
and `FeedReader.Loader.Unmerged` what every other act leaves alone. **After the first page no
other act brings stories or drops them**: the cache has nothing to offer any more, and the user
changes flags only.
-/

namespace FeedReader

namespace Loader

variable {l : Loader} {act : Act}

/-- What has been merged so far decides how far the stream has been fetched and what is held. -/
theorem Reachable.contents (hl : Reachable l) :
    ∃ merges, PagesInOrder l merges ∧ Contents l merges := by
  obtain ⟨context, cache, pageSize, acts, rfl⟩ := hl.exists_run
  exact ⟨_, pagesInOrder_run context cache pageSize acts, contents_run context cache pageSize acts⟩

theorem merge?_eq_some {merge : Merge} :
    merge? (l, act) = some merge ↔
      act = .complete (.page merge.ticket (.ok merge.stories)) ∧
        merge.ticket ∈ l.pendingPages ∧ l.expects merge.ticket = true := by
  constructor
  · intro h
    cases act with
    | complete completion =>
      cases completion with
      | flag number result => cases h
      | page ticket result =>
        rw [merge?_complete_page] at h
        cases result with
        | error cause => cases h
        | ok stories =>
          simp only [Option.ite_none_right_eq_some, Option.some.injEq] at h
          obtain ⟨⟨hmem, hexp⟩, rfl⟩ := h
          exact ⟨rfl, hmem, hexp⟩
    | _ => cases h
  · rintro ⟨rfl, hmem, hexp⟩
    rw [merge?_complete_page]
    exact if_pos ⟨hmem, hexp⟩

/-! ### A page that is merged -/

/-- What an act does that merges a page. -/
structure Merged (l : Loader) (act : Act) (merge : Merge) : Prop where
  page : merge.ticket.page = l.fetch.page + 1
  fetched : (l.step act).fetch.page = l.fetch.page + 1
  context : (l.step act).context = l.context
  generation : (l.step act).generation = l.generation
  pendingChanges : (l.step act).pendingChanges = l.pendingChanges
  collection : (l.step act).collection =
    l.currentChanges.foldl reapply (l.paged.merge merge.stories)
  cache : (l.step act).cache = (l.cachePage merge.ticket.page merge.stories).cache

theorem step_merged (hl : Reachable l) {merge : Merge} (h : merge? (l, act) = some merge) :
    Merged l act merge := by
  obtain ⟨merges, hpages, hcontents⟩ := hl.contents
  obtain ⟨rfl, hmem, hexp⟩ := merge?_eq_some.mp h
  obtain ⟨hgen, -, -⟩ := (l.expects_iff merge.ticket).mp hexp
  -- Pages come in order, so that it is the first page which replaces what the cache has brought.
  have hnext : merge.ticket.page = l.fetch.page + 1 := (hpages.next merge.ticket hmem hgen).2
  have hbase : (l.withoutPage merge.ticket).baseOf merge.ticket.page = l.paged :=
    hcontents.baseOf_eq_paged hnext
  have hstep : l.step (.complete (.page merge.ticket (.ok merge.stories))) =
      ((l.withoutPage merge.ticket).mergePage merge.ticket.page merge.stories).1 := by
    rw [step, l.complete_page_of_ok hmem hexp]
  rw [mergePage_eq] at hstep
  have hcollection : (l.step (.complete (.page merge.ticket (.ok merge.stories)))).collection =
      (l.withoutPage merge.ticket).merged merge.ticket.page merge.stories := by rw [hstep]
  refine ⟨hnext, ?_, ?_, ?_, ?_, ?_, ?_⟩
  · rw [hstep]
    rfl
  · rw [hstep]
    rfl
  · rw [hstep]
    rfl
  · rw [hstep]
    rfl
  · rw [hcollection, merged, hbase]
    rfl
  · rw [hstep]
    rfl

/-! ### Any other act of the stream -/

/-- Once a page has arrived, the cache brings nothing. -/
theorem collection_loadOffline (hl : Reachable l) (hpage : l.fetch.page ≠ 0) :
    l.loadOffline.1.collection = l.collection := by
  obtain ⟨merges, -, hcontents⟩ := hl.contents
  rw [loadOffline_eq, hcontents.offered_eq_nil hpage, Collection.merge_nil]

/-- Only the first page, when it fails, lets the cache speak. -/
theorem collection_complete_page (hl : Reachable l) (hpage : l.fetch.page ≠ 0) {ticket : Ticket}
    {result : Except FetchError (List Story)}
    (hmerge : merge? (l, .complete (.page ticket result)) = none) :
    (l.complete (.page ticket result)).1.collection = l.collection := by
  obtain ⟨merges, hpages, -⟩ := hl.contents
  rw [merge?_complete_page] at hmerge
  rcases l.complete_page_cases ticket result with
    ⟨-, h⟩ | ⟨-, -, h⟩ | ⟨stories, rfl, hmem, hexp, h⟩ | ⟨cause, rfl, hmem, hexp, h⟩
  · rw [h]
  · rw [h]
    rfl
  · simp [hmem, hexp] at hmerge
  · obtain ⟨hgen, -, -⟩ := (l.expects_iff ticket).mp hexp
    have hnext := (hpages.next ticket hmem hgen).2
    -- The page that failed is not the first one.
    have hlater : ¬ticket.page = 1 := by omega
    rw [h, failPage_eq, afterFailure]
    simp [hlater, withoutPage]

/-- What an act leaves alone that neither begins a stream nor merges a page. -/
structure Unmerged (l l' : Loader) : Prop where
  page : l'.fetch.page = l.fetch.page
  key : l'.context.key = l.context.key
  generation : l'.generation = l.generation
  unflagged : l.fetch.page ≠ 0 → l'.collection.unflagged = l.collection.unflagged

theorem SamePlace.unmerged {l' : Loader} (h : SamePlace l l') : Unmerged l l' :=
  ⟨by rw [h.fetch], by rw [h.context], h.generation, fun _ => h.unflagged⟩

theorem unmerged_complete_page (hl : Reachable l) {ticket : Ticket}
    {result : Except FetchError (List Story)}
    (hmerge : merge? (l, .complete (.page ticket result)) = none) :
    Unmerged l (l.complete (.page ticket result)).1 := by
  have hgen := (l.sameRecord_complete_page ticket result).generation
  have hcollection := fun hpage => congrArg Collection.unflagged
    (collection_complete_page hl hpage hmerge)
  rw [merge?_complete_page] at hmerge
  rcases l.complete_page_cases ticket result with
    ⟨-, h⟩ | ⟨-, -, h⟩ | ⟨stories, rfl, hmem, hexp, h⟩ | ⟨cause, rfl, hmem, hexp, h⟩
  · refine ⟨?_, ?_, hgen, hcollection⟩ <;> rw [h]
  · refine ⟨?_, ?_, hgen, hcollection⟩ <;> rw [h] <;> rfl
  · simp [hmem, hexp] at hmerge
  · refine ⟨?_, ?_, hgen, hcollection⟩ <;> rw [h, failPage_eq, afterFailure] <;> split <;>
      first | rfl | (rw [loadOffline_eq]; rfl)

/-- **Only a page that is merged moves a stream on.** -/
theorem step_unmerged (hl : Reachable l) (hact : act.isReset = false)
    (hmerge : merge? (l, act) = none) : Unmerged l (l.step act) := by
  cases act with
  | reset context => cases hact
  | loadOffline =>
    have hcollection := fun hpage => congrArg Collection.unflagged
      (collection_loadOffline hl hpage)
    refine ⟨?_, ?_, ?_, hcollection⟩ <;> rw [step, loadOffline_eq]
  | changeLevel level => exact ⟨rfl, rfl, rfl, fun _ => rfl⟩
  | useCache cache => exact ⟨rfl, rfl, rfl, fun _ => rfl⟩
  | requestPage =>
    rw [step]
    cases hidle : l.fetch.isIdle with
    | false =>
      rw [l.requestPage_of_busy hidle]
      exact (SamePlace.refl l).unmerged
    | true =>
      rw [l.requestPage_of_idle hidle]
      exact ⟨rfl, rfl, rfl, fun _ => rfl⟩
  | mark change id => exact (l.samePlace_mark change id).unmerged
  | markAllRead => exact l.samePlace_markAllRead.unmerged
  | complete completion =>
    cases completion with
    | flag number result => exact (l.samePlace_complete_flag number result).unmerged
    | page ticket result => exact unmerged_complete_page hl hmerge

end Loader

end FeedReader
