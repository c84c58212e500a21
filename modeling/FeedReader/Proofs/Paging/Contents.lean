import FeedReader.Proofs.Paging.PageOrder

/-!
# The collection is what the pages brought

Before the first page of a stream has been merged, the collection may hold stories from the
cache, and the loader then is seeded; afterwards it holds what the pages brought and nothing
else. `FeedReader.Loader.Contents` says so at every moment of a run:

* before the first page the loader is seeded **exactly when** it holds a story, so that the
  first page replaces whatever there is;
* after it the loader is online and not seeded, so that the cache stays out, and the
  collection is the merge of the pages, **flags aside**.

The flags go their own way: the user changes them, and a page leaves those alone that
are pending.
-/

namespace FeedReader

namespace Loader

/-- The stories of some pages, one page after the other. -/
def received (pages : List Merge) : List Story := pages.flatMap Merge.stories

/-- What the pages have brought: nothing before the first one, whatever the cache has brought. -/
def paged (l : Loader) : Collection := if l.fetch.page = 0 then {} else l.collection

/-- What the collection holds, by how far the stream has been fetched. -/
structure Contents (l : Loader) (merges : List Merge) : Prop where
  nodup : l.collection.ids.Nodup
  seeded_iff : l.fetch.page = 0 → (l.seeded = true ↔ l.collection.ids ≠ [])
  online : l.fetch.page ≠ 0 → l.fetch.online = true
  unseeded : l.fetch.page ≠ 0 → l.seeded = false
  unflagged_eq : l.fetch.page ≠ 0 →
    l.collection.unflagged =
      (Collection.merge {} (received (inGeneration l.generation merges))).unflagged

namespace Contents

variable {l l' : Loader} {merges : List Merge}

/-- Flags do not matter. -/
theorem congr (h : Contents l merges) (hgen : l'.generation = l.generation)
    (hpage : l'.fetch.page = l.fetch.page) (honline : l'.fetch.online = l.fetch.online)
    (hseeded : l'.seeded = l.seeded)
    (hunflagged : l'.collection.unflagged = l.collection.unflagged) : Contents l' merges := by
  have hids : l'.collection.ids = l.collection.ids := Collection.ids_eq_of_unflagged hunflagged
  refine ⟨hids ▸ h.nodup, ?_, ?_, ?_, ?_⟩ <;> rw [hpage]
  · rw [hids, hseeded]
    exact h.seeded_iff
  · rw [honline]
    exact h.online
  · rw [hseeded]
    exact h.unseeded
  · rw [hunflagged, hgen]
    exact h.unflagged_eq

theorem of_samePlace (h : Contents l merges) (hplace : SamePlace l l') : Contents l' merges :=
  h.congr hplace.generation (by rw [hplace.fetch]) (by rw [hplace.fetch]) hplace.seeded
    hplace.unflagged

theorem new (context : Context) (cache : Cache) (pageSize : Nat) :
    Contents (Loader.new context cache pageSize) [] where
  nodup := by simp [Loader.new, Collection.ids]
  seeded_iff := by simp [Loader.new, Collection.ids]
  online := by simp [Loader.new]
  unseeded := by simp [Loader.new]
  unflagged_eq := by simp [Loader.new]

/-- Once a page has arrived, the cache has nothing to offer. -/
theorem offered_eq_nil (h : Contents l merges) (hpage : l.fetch.page ≠ 0) : l.offered = [] := by
  simp [offered, takesOffline, h.online hpage, hpage]

/-- **The cache may speak before the first page only**, and it makes the loader seeded if it
has anything to say. -/
theorem loadOffline (h : Contents l merges) : Contents l.loadOffline.1 merges := by
  rw [loadOffline_eq]
  by_cases hpage : l.fetch.page = 0
  · refine ⟨Collection.nodup_ids_merge h.nodup _, fun _ => ?_, fun hne => absurd hpage hne,
      fun hne => absurd hpage hne, fun hne => absurd hpage hne⟩
    have hprefix := l.collection.ids_prefix_merge l.offered
    change ((l.seeded || !l.newlyOffered.isEmpty) = true ↔ (l.collection.merge l.offered).ids ≠ [])
    by_cases hempty : l.collection.ids = []
    · -- Nothing was held, so what is new is everything.
      have hsize : l.collection.size = 0 := by
        simpa [Collection.size, Collection.ids] using hempty
      have hseeded : l.seeded = false := by
        simpa [hempty] using h.seeded_iff hpage
      simp [hseeded, newlyOffered, Collection.append, hsize, Collection.ids]
    · have hseeded : l.seeded = true := (h.seeded_iff hpage).mpr hempty
      have hheld : (l.collection.merge l.offered).ids ≠ [] := fun hnil =>
        hempty (List.prefix_nil.mp (hnil ▸ hprefix))
      simp [hseeded, hheld]
  · have hoffered := h.offered_eq_nil hpage
    have hnew : l.newlyOffered = [] := by simp [newlyOffered, hoffered]
    exact h.congr rfl rfl rfl (by simp [hnew]) (by simp [hoffered])

theorem reset (l : Loader) (merges : List Merge) (context : Context) :
    Contents (l.reset context) merges := by
  have hbegun : Contents (l.beginning context) merges :=
    { nodup := by simp [beginning, Collection.ids]
      seeded_iff := by simp [beginning, Collection.ids]
      online := by simp [beginning, FetchState.start]
      unseeded := by simp [beginning]
      unflagged_eq := by simp [beginning, FetchState.start] }
  rw [reset_eq]
  exact hbegun.loadOffline.congr rfl rfl rfl rfl rfl

/-- **The next page is merged into what the pages have brought**: the first one replaces what the
cache has brought, if anything. -/
theorem baseOf_eq_paged (h : Contents l merges) {page : Nat} (hnext : page = l.fetch.page + 1) :
    l.baseOf page = l.paged := by
  by_cases hpage : l.fetch.page = 0
  · by_cases hseeded : l.seeded = true
    · simp [baseOf, paged, hnext, hpage, hseeded]
    · have hids : l.collection.ids = [] := by
        by_contra hne
        exact hseeded ((h.seeded_iff hpage).mpr hne)
      have hempty : l.collection = {} := congrArg Collection.mk (List.map_eq_nil_iff.mp hids)
      simp [baseOf, paged, hpage, hseeded, hempty]
  · have hlater : page ≠ 1 := by omega
    simp [baseOf, paged, hpage, hlater]

theorem merged (h : Contents l merges) (hpages : PagesInOrder l merges) {ticket : Ticket}
    (hmem : ticket ∈ l.pendingPages) (hgen : ticket.generation = l.generation)
    (stories : List Story) :
    Contents ((l.withoutPage ticket).mergePage ticket.page stories).1
      (merges ++ [⟨ticket, stories⟩]) := by
  have hnext : ticket.page = l.fetch.page + 1 := (hpages.next ticket hmem hgen).2
  rw [mergePage_eq]
  have hpaged : (l.withoutPage ticket).baseOf ticket.page = l.paged := h.baseOf_eq_paged hnext
  -- What the page is merged into, flags aside, is the merge of the pages before.
  have hbase : l.paged.unflagged =
      (Collection.merge {} (received (inGeneration l.generation merges))).unflagged := by
    by_cases hpage : l.fetch.page = 0
    · have hnone : inGeneration l.generation merges = [] := by
        have hlen := congrArg List.length hpages.pages_merged
        rw [List.length_map, List.length_range', hpage] at hlen
        exact List.length_eq_zero_iff.mp hlen
      rw [hnone, paged, if_pos hpage]
      rfl
    · rw [paged, if_neg hpage]
      exact h.unflagged_eq hpage
  have hunflagged : ((l.withoutPage ticket).merged ticket.page stories).unflagged =
      (Collection.merge {} (received (inGeneration l.generation merges) ++ stories)).unflagged := by
    rw [Loader.merged, unflagged_foldl_reapply, hpaged, Collection.unflagged_merge, hbase,
      ← Collection.unflagged_merge, Collection.merge_append]
  refine ⟨?_, fun hzero => ?_, fun _ => rfl, fun _ => ?_, fun _ => ?_⟩
  · change ((l.withoutPage ticket).merged ticket.page stories).ids.Nodup
    rw [Collection.ids_eq_of_unflagged hunflagged]
    exact Collection.nodup_ids_merge (by simp [Collection.ids]) _
  · exact absurd hzero (Nat.succ_ne_zero l.fetch.page)
  · change (l.seeded && ticket.page != 1) = false
    by_cases hpage : l.fetch.page = 0
    · simp [hnext, hpage]
    · simp [h.unseeded hpage]
  · change ((l.withoutPage ticket).merged ticket.page stories).unflagged =
      (Collection.merge {} (received (inGeneration l.generation _))).unflagged
    rw [hunflagged, inGeneration_append]
    simp [inGeneration, hgen, received]

theorem complete_page (h : Contents l merges) (hpages : PagesInOrder l merges) (ticket : Ticket)
    (result : Except FetchError (List Story)) :
    Contents (l.complete (.page ticket result)).1
      (merges ++ (merge? (l, .complete (.page ticket result))).toList) := by
  rw [merge?_complete_page]
  rcases l.complete_page_cases ticket result with
    ⟨hmem, heq⟩ | ⟨hmem, hexp, heq⟩ | ⟨stories, rfl, hmem, hexp, heq⟩ |
      ⟨cause, rfl, hmem, hexp, heq⟩ <;> rw [heq]
  · cases result <;> simpa [hmem] using h
  · have hkept : Contents (l.withoutPage ticket) merges := h.congr rfl rfl rfl rfl rfl
    cases result <;> simpa [hexp] using hkept
  · obtain ⟨hgen, -, -⟩ := (l.expects_iff ticket).mp hexp
    simpa [hmem, hexp] using h.merged hpages hmem hgen stories
  · obtain ⟨hgen, -, -⟩ := (l.expects_iff ticket).mp hexp
    have hnext : ticket.page = l.fetch.page + 1 := (hpages.next ticket hmem hgen).2
    simp only [Option.toList_none, List.append_nil, failPage_eq]
    unfold afterFailure
    split
    · next hoffline =>
      simp only [Bool.and_eq_true, decide_eq_true_eq] at hoffline
      have hpage : l.fetch.page = 0 := by omega
      have hfailed : Contents { l.withoutPage ticket with
          fetch := (l.withoutPage ticket).fetch.fail.setOnline false } merges :=
        ⟨h.nodup, h.seeded_iff, fun hne => absurd hpage hne, h.unseeded, h.unflagged_eq⟩
      exact hfailed.loadOffline.congr rfl rfl rfl rfl rfl
    · exact h.congr rfl rfl rfl rfl rfl

theorem step (h : Contents l merges) (hpages : PagesInOrder l merges) (act : Act) :
    Contents (l.step act) (merges ++ (merge? (l, act)).toList) := by
  cases act with
  | complete completion =>
    cases completion with
    | page ticket result => exact h.complete_page hpages ticket result
    | flag number result =>
      have hplace := l.samePlace_complete_flag number result
      simpa [merge?, Loader.step] using h.of_samePlace hplace
  | reset context => simpa [merge?, Loader.step] using Contents.reset l merges context
  | requestPage =>
    have hkept : Contents l.requestPage.1 merges := by
      cases hidle : l.fetch.isIdle with
      | false =>
        rw [l.requestPage_of_busy hidle]
        exact h
      | true =>
        rw [l.requestPage_of_idle hidle]
        exact h.congr rfl rfl rfl rfl rfl
    simpa [merge?, Loader.step] using hkept
  | loadOffline => simpa [merge?, Loader.step] using h.loadOffline
  | changeLevel level =>
    simp only [merge?, Option.toList_none, List.append_nil, Loader.step]
    exact h.congr rfl rfl rfl rfl rfl
  | mark change id =>
    simpa [merge?, Loader.step] using h.of_samePlace (l.samePlace_mark change id)
  | markAllRead => simpa [merge?, Loader.step] using h.of_samePlace l.samePlace_markAllRead
  | useCache cache =>
    simp only [merge?, Option.toList_none, List.append_nil, Loader.step]
    exact h.congr rfl rfl rfl rfl rfl

end Contents

theorem contents_run (context : Context) (cache : Cache) (pageSize : Nat) (acts : List Act) :
    Contents ((Loader.new context cache pageSize).run acts)
      ((Loader.new context cache pageSize).merges acts) := by
  induction acts using List.reverseRecOn with
  | nil => exact .new context cache pageSize
  | append_singleton acts act ih =>
    rw [run_append, merges_concat]
    exact ih.step (pagesInOrder_run context cache pageSize acts) act

/-- No story is held twice. -/
theorem Reachable.nodup_ids {l : Loader} (h : Reachable l) : l.collection.ids.Nodup := by
  obtain ⟨context, cache, pageSize, acts, rfl⟩ := h.exists_run
  exact (contents_run context cache pageSize acts).nodup

/-- The pages of a generation decide the collection, flags aside. -/
theorem unflagged_run (context : Context) (cache : Cache) (pageSize : Nat) (acts : List Act) :
    let start := Loader.new context cache pageSize
    let l := start.run acts
    start.mergesOf acts l.generation ≠ [] →
      l.collection.unflagged =
        (Collection.merge {} (received (start.mergesOf acts l.generation))).unflagged := by
  intro start l hmerged
  refine (contents_run context cache pageSize acts).unflagged_eq fun hzero => hmerged ?_
  have hpages := (pagesInOrder_run context cache pageSize acts).pages_merged
  rw [hzero, List.range'_zero] at hpages
  exact List.map_eq_nil_iff.mp hpages

/-- **Once a page has been merged, the collection is exactly what the pages brought.** The
stories stand in the order in which they came first, each once, and each is the last copy that
came, flags aside. Whatever the cache held has left no trace: another run in which the same
pages were merged has the same stories in the same order. -/
theorem collection_of_merged_pages (context : Context) (cache : Cache) (pageSize : Nat)
    (acts : List Act) :
    let start := Loader.new context cache pageSize
    let l := start.run acts
    let pages := start.mergesOf acts l.generation
    pages ≠ [] →
      pages.map (fun merge => merge.ticket.page) = List.range' 1 l.fetch.page ∧
      l.collection.ids = ((received pages).map Story.id).eraseDups ∧
      l.collection.ids.Nodup ∧
      (∀ story ∈ l.collection.stories, ∃ copy,
        ((received pages).filter fun s => s.id = story.id).getLast? = some copy ∧
          story.unflagged = copy.unflagged) ∧
      ∀ (context' : Context) (cache' : Cache) (pageSize' : Nat) (acts' : List Act),
        let start' := Loader.new context' cache' pageSize'
        let l' := start'.run acts'
        (start'.mergesOf acts' l'.generation).map Merge.stories = pages.map Merge.stories →
          l'.collection.ids = l.collection.ids ∧
            l'.collection.unflagged = l.collection.unflagged := by
  intro start l pages hmerged
  have hunflagged : l.collection.unflagged = (Collection.merge {} (received pages)).unflagged :=
    unflagged_run context cache pageSize acts hmerged
  have hnodup : l.collection.ids.Nodup := (contents_run context cache pageSize acts).nodup
  refine ⟨(pagesInOrder_run context cache pageSize acts).pages_merged, ?_, hnodup, ?_, ?_⟩
  · rw [← Collection.ids_unflagged, hunflagged, Collection.ids_unflagged,
      Collection.ids_merge (by simp [Collection.ids])]
    simp [Collection.ids]
  · intro story hstory
    have hfind : l.collection.unflagged.find? story.id = some story.unflagged := by
      rw [Collection.find?_unflagged, Collection.find?_eq_some_of_mem hnodup hstory]
      rfl
    rw [hunflagged, Collection.find?_unflagged, Collection.find?_merge, Option.map_eq_some_iff]
      at hfind
    obtain ⟨copy, hcopy, heq⟩ := hfind
    refine ⟨copy, ?_, heq.symm⟩
    simpa [lastCopy?, Collection.find?] using hcopy
  · intro context' cache' pageSize' acts' start' l' hsame
    have hmerged' : start'.mergesOf acts' l'.generation ≠ [] := by
      intro hnil
      rw [hnil, List.map_nil, eq_comm, List.map_eq_nil_iff] at hsame
      exact hmerged hsame
    have hreceived : received (start'.mergesOf acts' l'.generation) = received pages := by
      rw [received, received, List.flatMap_def, List.flatMap_def, hsame]
    have heq : l'.collection.unflagged = l.collection.unflagged := by
      rw [hunflagged, ← hreceived]
      exact unflagged_run context' cache' pageSize' acts' hmerged'
    refine ⟨?_, heq⟩
    rw [← Collection.ids_unflagged, heq, Collection.ids_unflagged]

/-- A cache with a story that the server does not send any more. -/
def staleCache : Cache where
  tables :=
    { rows := [Row.ofStory { id := ⟨"1:old"⟩, feedId := 1, title := "old" }]
      links := [⟨"feed:1", ⟨"1:old"⟩, 0⟩] }

/-- Two pages, the second of which has a story of the first again. -/
def twoPages : List Act :=
  [.reset { source := .feed 1 }, .requestPage,
    .complete (.page ⟨1, { source := .feed 1 }, 1⟩
      (.ok [{ id := ⟨"1:a"⟩, feedId := 1, title := "a" },
        { id := ⟨"1:b"⟩, feedId := 1, title := "b" }])),
    .requestPage,
    .complete (.page ⟨1, { source := .feed 1 }, 2⟩
      (.ok [{ id := ⟨"1:c"⟩, feedId := 1, title := "c" },
        { id := ⟨"1:a"⟩, feedId := 1, title := "a, corrected" }]))]

theorem collection_of_two_pages :
    let start := Loader.new { source := .feed 1 } staleCache 2
    start.mergesOf twoPages (start.run twoPages).generation ≠ [] ∧
      (start.run (twoPages.take 1)).collection.ids = [⟨"1:old"⟩] ∧
      (start.run twoPages).collection.ids =
        ((received (start.mergesOf twoPages (start.run twoPages).generation)).map
          Story.id).eraseDups := by
  have hmerged : (Loader.new { source := .feed 1 } staleCache 2).mergesOf twoPages
      ((Loader.new { source := .feed 1 } staleCache 2).run twoPages).generation ≠ [] := by decide
  exact ⟨hmerged, by decide,
    (collection_of_merged_pages { source := .feed 1 } staleCache 2 twoPages hmerged).2.1⟩

end Loader

end FeedReader
