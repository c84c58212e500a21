import FeedReader.Proofs.Paging.Merging
import FeedReader.Text.Numeral
import Mathlib.Data.Finset.Card

/-!
# Paging ends

The server says that a page is the last one by not filling it, and a server that repeats itself
would never say so. The loader therefore stops at a page that brings no new story. **Every page but
the last adds a story to the collection**, and nothing takes one away before the next reset, so the
number of pages is bounded by the number of stories (`FeedReader.Loader.PagesBounded`):

  `page ≤ stories`, and `page ≤ stories + 1` once the stream has ended.

The first page may drop stories, those that the cache has brought. But then it is counted as the
first of the stories that it brings itself.

If only finitely many stories exist, the bound is one number for all runs, and **the page counter
never leaves its word** unless there are as many stories as there are values of a word.
-/

namespace FeedReader

open Collection

namespace Loader

variable {l : Loader} {act : Act}

/-! ### What a page does to the bound -/

theorem size_eq_of_unflagged {c c' : Collection} (h : c.unflagged = c'.unflagged) :
    c.size = c'.size := by
  have hids := congrArg List.length (ids_eq_of_unflagged h)
  rwa [ids, ids, List.length_map, List.length_map] at hids

theorem size_merge (c : Collection) (batch : List Story) :
    (c.merge batch).size = c.size + (c.append batch).2.length := by
  have hids := congrArg List.length (c.ids_merge_eq_append batch)
  rwa [ids, ids, List.length_append, List.length_map, List.length_map, List.length_map] at hids

/-- **A page that is not the last one adds a story** to what the pages before it have brought. -/
theorem size_step_merged (hl : Reachable l) {merge : Merge} (h : merge? (l, act) = some merge) :
    l.paged.size + (if (l.step act).fetch.finished then 0 else 1) ≤
      (l.step act).collection.size := by
  obtain ⟨merges, hpages, hcontents⟩ := hl.contents
  have hmerged := step_merged hl h
  have hsize : (l.step act).collection.size =
      l.paged.size + (l.paged.append merge.stories).2.length := by
    rw [hmerged.collection, size_eq_of_unflagged (unflagged_foldl_reapply _ _), size_merge]
  obtain ⟨rfl, hmem, hexp⟩ := merge?_eq_some.mp h
  have hbase : (l.withoutPage merge.ticket).baseOf merge.ticket.page = l.paged :=
    hcontents.baseOf_eq_paged hmerged.page
  have hfinished : (l.step (.complete (.page merge.ticket (.ok merge.stories)))).fetch.finished =
      (l.withoutPage merge.ticket).isLast merge.ticket.page merge.stories := by
    rw [step, l.complete_page_of_ok hmem hexp, mergePage_eq]
    rfl
  rw [hsize, hfinished, isLast, addedBy, hbase]
  cases (l.paged.append merge.stories).2 with
  | nil => simp
  | cons story added =>
    rw [List.length_cons]
    split <;> omega

/-- No other act of the stream ends it, or begins it again. -/
theorem finished_step (hreset : act.isReset = false) (hmerge : merge? (l, act) = none) :
    (l.step act).fetch.finished = l.fetch.finished := by
  have hplace : ∀ {l'}, SamePlace l l' → l'.fetch.finished = l.fetch.finished :=
    fun h => by rw [h.fetch]
  cases act with
  | reset context => cases hreset
  | loadOffline => rw [step, loadOffline_eq]
  | changeLevel level => rfl
  | useCache cache => rfl
  | requestPage =>
    cases hidle : l.fetch.isIdle with
    | false => rw [step, l.requestPage_of_busy hidle]
    | true => rw [step, l.requestPage_of_idle hidle]
  | mark change id => exact hplace (l.samePlace_mark change id)
  | markAllRead => exact hplace l.samePlace_markAllRead
  | complete completion =>
    cases completion with
    | flag number result => exact hplace (l.samePlace_complete_flag number result)
    | page ticket result =>
      rw [merge?_complete_page] at hmerge
      rcases l.complete_page_cases ticket result with
        ⟨-, h⟩ | ⟨-, -, h⟩ | ⟨stories, rfl, hmem, hexp, h⟩ | ⟨cause, rfl, hmem, hexp, h⟩
      · rw [step, h]
      · rw [step, h]
        rfl
      · simp [hmem, hexp] at hmerge
      · rw [step, h, failPage_eq, afterFailure]
        split
        · rw [loadOffline_eq]
          rfl
        · rfl

/-- A stream that asks for a page has not ended. -/
theorem PagesInOrder.finished_of_issued {merges : List Merge} (h : PagesInOrder l merges)
    (hissued : (l.step act).issuedTickets = l.issuedTickets ++ [l.nextTicket]) :
    l.fetch.finished = false := by
  by_contra hfinished
  rw [Bool.not_eq_false] at hfinished
  have hfetching : l.fetch.fetching = false := by
    by_contra hfetching
    exact h.not_both ⟨by simpa using hfetching, hfinished⟩
  have hsame : (l.step act).issuedTickets = l.issuedTickets := by
    cases hreset : act.isReset with
    | false => exact (step_of_finished hfinished hfetching hreset).2
    | true =>
      cases act with
      | reset context =>
        rw [Loader.step, reset_eq, loadOffline_eq]
        rfl
      | _ => cases hreset
  rw [hsame] at hissued
  simp at hissued

/-- A stream that waits for a page has not ended. -/
theorem finished_of_merge (hl : Reachable l) {merge : Merge} (h : merge? (l, act) = some merge) :
    l.fetch.finished = false := by
  obtain ⟨merges, hpages, -⟩ := hl.contents
  obtain ⟨-, -, hexp⟩ := merge?_eq_some.mp h
  obtain ⟨-, -, hfetching⟩ := (l.expects_iff merge.ticket).mp hexp
  by_contra hfinished
  exact hpages.not_both ⟨hfetching, by simpa using hfinished⟩

/-- The bound on the pages: the stories, and one more once the stream has ended. -/
def PagesBounded (l : Loader) : Prop :=
  l.fetch.page ≤ l.collection.size + if l.fetch.finished then 1 else 0

theorem PagesBounded.merged (hl : Reachable l) (h : PagesBounded l) {merge : Merge}
    (hmerge : merge? (l, act) = some merge) : PagesBounded (l.step act) := by
  have hsize := size_step_merged hl hmerge
  -- Before the first page nothing is counted, neither pages nor what the cache has brought.
  have hpaged : l.fetch.page ≤ l.paged.size := by
    rw [PagesBounded, finished_of_merge hl hmerge] at h
    unfold paged
    split
    · omega
    · exact h
  rw [PagesBounded, (step_merged hl hmerge).fetched]
  cases hlast : (l.step act).fetch.finished <;> simp [hlast] at hsize ⊢ <;> omega

theorem PagesBounded.unmerged (hl : Reachable l) (h : PagesBounded l)
    (hmerge : merge? (l, act) = none) : PagesBounded (l.step act) := by
  cases hreset : act.isReset with
  | true =>
    cases act with
    | reset context =>
      have hpage : (l.step (.reset context)).fetch.page = 0 := by
        rw [Loader.step, reset_eq, loadOffline_eq]
        rfl
      rw [PagesBounded, hpage]
      exact Nat.zero_le _
    | _ => cases hreset
  | false =>
    have hkept := step_unmerged hl hreset hmerge
    rw [PagesBounded, finished_step hreset hmerge, hkept.page]
    by_cases hpage : l.fetch.page = 0
    · omega
    · rwa [size_eq_of_unflagged (hkept.unflagged hpage)]

/-- **The pages are not more than the stories**, but for the last one. -/
theorem pagesBounded (hl : Reachable l) : PagesBounded l := by
  induction hl with
  | new context cache pageSize => exact Nat.zero_le _
  | @step l act hl ih =>
    cases hmerge : merge? (l, act) with
    | some merge => exact ih.merged hl hmerge
    | none => exact ih.unmerged hl hmerge

/-! ### A server with finitely many stories -/

section Finite

variable {merges : List Merge} {ids : Finset StoryId}

/-- The pages bring stories of a finite set only. -/
def Among (merges : List Merge) (ids : Finset StoryId) : Prop :=
  ∀ merge ∈ merges, ∀ story ∈ merge.stories, story.id ∈ ids

/-- Once a page has been merged, there are no other stories than the pages have brought. -/
theorem Among.size_le (h : Among merges ids) (hcontents : Contents l merges)
    (hpage : l.fetch.page ≠ 0) : l.collection.size ≤ ids.card := by
  have hsubset : l.collection.ids.toFinset ⊆ ids := by
    intro id hid
    rw [List.mem_toFinset, ids_eq_of_unflagged (hcontents.unflagged_eq hpage),
      ids_merge (by simp [Collection.ids]), List.mem_eraseDups] at hid
    obtain ⟨story, hstory, rfl⟩ := List.mem_map.mp (by simpa [Collection.ids] using hid)
    obtain ⟨merge, hmerge, hstory⟩ := List.mem_flatMap.mp hstory
    exact h merge (List.mem_of_mem_filter hmerge) story hstory
  calc
    l.collection.size = l.collection.ids.length := by simp [size, Collection.ids]
    _ = l.collection.ids.toFinset.card := (List.toFinset_card_of_nodup hcontents.nodup).symm
    _ ≤ ids.card := Finset.card_le_card hsubset

/-- So the set bounds the pages as well. -/
theorem Among.page_le (h : Among merges ids) (hl : Reachable l) (hcontents : Contents l merges) :
    l.fetch.page ≤ ids.card + if l.fetch.finished then 1 else 0 := by
  by_cases hpage : l.fetch.page = 0
  · omega
  · have hle : l.fetch.page ≤ _ := pagesBounded hl
    have hsize := h.size_le hcontents hpage
    omega

theorem PagesInOrder.length_inGeneration (h : PagesInOrder l merges) :
    (inGeneration l.generation merges).length = l.fetch.page := by
  have hpages := congrArg List.length h.pages_merged
  rwa [List.length_map, List.length_range'] at hpages

/-- A page that is merged belongs to the generation that goes on. -/
theorem generation_step_merged (hl : Reachable l) {merge : Merge}
    (h : merge? (l, act) = some merge) : (l.step act).generation = merge.ticket.generation := by
  obtain ⟨-, -, hexp⟩ := merge?_eq_some.mp h
  exact (step_merged hl h).generation.trans ((l.expects_iff merge.ticket).mp hexp).1.symm

/-- An act adds a page to the current generation only, whose pages are counted. -/
theorem PagesInOrder.length_inGeneration_le (hl : Reachable l)
    (h : PagesInOrder (l.step act) (merges ++ (merge? (l, act)).toList)) {bound : Nat}
    (hpage : (l.step act).fetch.page ≤ bound) {generation : Nat}
    (hbefore : (inGeneration generation merges).length ≤ bound) :
    (inGeneration generation (merges ++ (merge? (l, act)).toList)).length ≤ bound := by
  cases hmerge : merge? (l, act) with
  | none => simpa using hbefore
  | some merge =>
    by_cases hgen : merge.ticket.generation = generation
    · have hlength := h.length_inGeneration
      rw [generation_step_merged hl hmerge, hgen, hmerge] at hlength
      omega
    · rw [inGeneration_append]
      simpa [inGeneration, hgen] using hbefore

variable {context : Context} {cache : Cache} {pageSize : Nat} {acts : List Act}

/-- No generation gets more pages than the set has stories and one more. -/
theorem length_mergesOf_le (h : Among ((Loader.new context cache pageSize).merges acts) ids)
    (generation : Nat) :
    ((Loader.new context cache pageSize).mergesOf acts generation).length ≤ ids.card + 1 := by
  have hstart : Reachable (Loader.new context cache pageSize) := .new context cache pageSize
  induction acts using List.reverseRecOn with
  | nil => exact Nat.zero_le _
  | append_singleton acts act ih =>
    have hpages := pagesInOrder_run context cache pageSize (acts ++ [act])
    have hle := h.page_le (hstart.run _) (contents_run context cache pageSize (acts ++ [act]))
    rw [run_append, merges_concat] at hpages
    rw [run_append] at hle
    rw [merges_concat] at h
    rw [mergesOf, merges_concat]
    refine hpages.length_inGeneration_le (hstart.run acts) ?_
      (ih fun merge hmerge => h merge (List.mem_append_left _ hmerge))
    refine Nat.le_trans hle ?_
    split <;> omega

/-- Every page that is asked for has a number up to the bound. -/
theorem issued_le_card (h : Among ((Loader.new context cache pageSize).merges acts) ids) :
    ∀ ticket ∈ ((Loader.new context cache pageSize).run acts).issuedTickets,
      ticket.page ≤ ids.card + 1 := by
  induction acts using List.reverseRecOn with
  | nil => simp [issuedTickets, Loader.new]
  | append_singleton acts act ih =>
    rw [merges_concat] at h
    have hbefore : Among ((Loader.new context cache pageSize).merges acts) ids :=
      fun merge hmerge => h merge (List.mem_append_left _ hmerge)
    have hold := ih hbefore
    have hpages := pagesInOrder_run context cache pageSize acts
    have hle := hbefore.page_le ((Reachable.new context cache pageSize).run acts)
      (contents_run context cache pageSize acts)
    rw [run_append, run_cons, run_nil]
    generalize (Loader.new context cache pageSize).run acts = l at hold hpages hle ⊢
    intro ticket hticket
    rcases l.step_issuedTickets act with hsame | hnew
    · exact hold ticket (hsame ▸ hticket)
    · rw [hnew] at hticket
      rcases List.mem_append.mp hticket with hissued | hlast
      · exact hold ticket hissued
      · obtain rfl := List.mem_singleton.mp hlast
        rw [hpages.finished_of_issued hnew] at hle
        exact Nat.succ_le_succ hle

end Finite

/-- **Paging ends.** The pages that have arrived are never more than the stories that are loaded,
but for one more if the stream has ended. So if the pages that are merged have only stories of a
finite set, whatever the cache has brought, no generation gets more pages than the set has stories
and one more, and the stream has ended when it has got that many. The number of a page does not
leave its word then, as long as the set has fewer stories than the word has values but one. -/
theorem paging_ends (context : Context) (cache : Cache) (pageSize : Nat) (acts : List Act) :
    let start := Loader.new context cache pageSize
    let l := start.run acts
    l.fetch.page ≤ l.collection.size + (if l.fetch.finished then 1 else 0) ∧
      ∀ ids : Finset StoryId,
        (∀ merge ∈ start.merges acts, ∀ story ∈ merge.stories, story.id ∈ ids) →
          (∀ generation, (start.mergesOf acts generation).length ≤ ids.card + 1) ∧
          ((start.mergesOf acts l.generation).length = ids.card + 1 → l.fetch.finished = true) ∧
          (ids.card < word32 - 1 →
            l.fetch.page < word32 ∧ ∀ ticket ∈ l.issuedTickets, ticket.page < word32) := by
  intro start l
  have hl : Reachable l := (Reachable.new context cache pageSize).run acts
  refine ⟨pagesBounded hl, fun ids hids => ?_⟩
  have hamong : Among (start.merges acts) ids := hids
  have hle := hamong.page_le hl (contents_run context cache pageSize acts)
  refine ⟨length_mergesOf_le hids, fun hlength => ?_, fun hfew => ⟨?_, fun ticket hticket => ?_⟩⟩
  · have hpage : (start.mergesOf acts l.generation).length = l.fetch.page :=
      (pagesInOrder_run context cache pageSize acts).length_inGeneration
    by_contra hfinished
    rw [if_neg hfinished] at hle
    omega
  · split at hle <;> omega
  · have hissued := issued_le_card hids ticket hticket
    omega

/-- A server that has one story and sends it again and again, on pages that are full. -/
def repeatedPage : List Act :=
  [.reset { source := .feed 1 }, .requestPage,
    .complete (.page ⟨1, { source := .feed 1 }, 1⟩
      (.ok [{ id := ⟨"1:a"⟩, feedId := 1, title := "a" }])),
    .requestPage,
    .complete (.page ⟨1, { source := .feed 1 }, 2⟩
      (.ok [{ id := ⟨"1:a"⟩, feedId := 1, title := "a" }]))]

/-- The second page is the last one. -/
theorem paging_ends_repeatedPage :
    let start := Loader.new { source := .feed 1 } staleCache 1
    (∀ merge ∈ start.merges repeatedPage, ∀ story ∈ merge.stories,
        story.id ∈ ({⟨"1:a"⟩} : Finset StoryId)) ∧
      (start.mergesOf repeatedPage 1).length = 2 ∧ (start.mergesOf repeatedPage 1).length ≤ 1 + 1 ∧
      (start.run repeatedPage).fetch.finished = true ∧
      (start.run repeatedPage).fetch.page < word32 := by
  have hids : ∀ merge ∈ (Loader.new { source := .feed 1 } staleCache 1).merges repeatedPage,
      ∀ story ∈ merge.stories, story.id ∈ ({⟨"1:a"⟩} : Finset StoryId) := by
    decide +kernel
  have hlength : ((Loader.new { source := .feed 1 } staleCache 1).mergesOf repeatedPage 1).length =
      2 := by
    decide +kernel
  obtain ⟨hle, hfinished, hword⟩ :=
    (paging_ends { source := .feed 1 } staleCache 1 repeatedPage).2 {⟨"1:a"⟩} hids
  exact ⟨hids, hlength, hle 1, hfinished hlength, (hword (by decide)).1⟩

end Loader

end FeedReader
