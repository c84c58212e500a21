import FeedReader.Proofs.Paging.Merging

/-!
# Being offline ends with the first page

Four operations have to do with the cache: the reset, which begins with what the cache has, the call
that asks it again, the first page that fails for want of a connection, and the first page that
arrives. Each looks at a part of the state only: whether the server could be reached, whether the
loader is seeded, or how many pages there are. **Together they keep all of this before the first
page** (`FeedReader.Loader.offline_before_first_page`): a loader that is offline or seeded has no
page, and one without a page is seeded exactly if it holds a story. So there is never anything from
the cache that the first page would not replace.

Pages are only counted up until the loader is reset. So the cache is out of the game once a page has
been merged, whatever comes later.
-/

namespace FeedReader

namespace Loader

variable {l : Loader}

/-! ### Pages are counted up -/

theorem page_le_step (hl : Reachable l) {act : Act} (hact : act.isReset = false) :
    l.fetch.page ≤ (l.step act).fetch.page := by
  cases hmerge : merge? (l, act) with
  | some merge =>
    rw [(step_merged hl hmerge).fetched]
    exact Nat.le_succ l.fetch.page
  | none => exact Nat.le_of_eq (step_unmerged hl hact hmerge).page.symm

theorem page_le_run (hl : Reachable l) {acts : List Act}
    (hacts : ∀ act ∈ acts, act.isReset = false) : l.fetch.page ≤ (l.run acts).fetch.page := by
  induction acts generalizing l with
  | nil => exact Nat.le_refl l.fetch.page
  | cons act acts ih =>
    obtain ⟨hact, hrest⟩ := List.forall_mem_cons.mp hacts
    exact Nat.le_trans (page_le_step hl hact) (ih (hl.step act) hrest)

/-! ### The cache is asked in vain -/

/-- Once there is a page, the cache is not even asked. -/
theorem loadOffline_of_paged (hl : Reachable l) (hpage : l.fetch.page ≠ 0) :
    l.loadOffline = (l, 0) := by
  obtain ⟨merges, -, hcontents⟩ := hl.contents
  have hout : l.takesOffline = false := by simp [takesOffline, hcontents.online hpage, hpage]
  simp [loadOffline, hout]

/-- **Being offline ends with the first page.** A loader that is offline or seeded has merged no
page since it was reset, and as long as it has none it is seeded exactly if it holds a story. Once
an act has merged a page, asking the cache brings nothing and leaves the whole loader as it is,
until the next reset. -/
theorem offline_before_first_page (hl : Reachable l) :
    (l.fetch.online = false ∨ l.seeded = true → l.fetch.page = 0) ∧
      (l.fetch.page = 0 → (l.seeded = true ↔ l.collection.stories ≠ [])) ∧
      ∀ act merge later, merge? (l, act) = some merge → (∀ act ∈ later, act.isReset = false) →
        ((l.step act).run later).loadOffline = ((l.step act).run later, 0) := by
  obtain ⟨merges, -, hcontents⟩ := hl.contents
  refine ⟨fun hoffline => ?_, fun hpage => ?_, fun act merge later hmerge hlater => ?_⟩
  · by_contra hpage
    rcases hoffline with hoff | hseeded
    · exact absurd (hcontents.online hpage) (Bool.eq_false_iff.mp hoff)
    · exact absurd hseeded (Bool.eq_false_iff.mp (hcontents.unseeded hpage))
  · rw [hcontents.seeded_iff hpage, Collection.ids, ne_eq, List.map_eq_nil_iff]
  · have hpaged : 0 < (l.step act).fetch.page := by
      rw [(step_merged hl hmerge).fetched]
      exact Nat.succ_pos l.fetch.page
    have hgrown : (l.step act).fetch.page ≤ ((l.step act).run later).fetch.page :=
      page_le_run (hl.step act) hlater
    exact loadOffline_of_paged ((hl.step act).run later)
      (Nat.ne_of_gt (Nat.lt_of_lt_of_le hpaged hgrown))

/-- A loader that has a story from the cache, has gone offline and asks for the first page again. -/
def awaitingServer : Loader :=
  (Loader.new { source := .feed 1 } staleCache 2).run
    [.reset { source := .feed 1 }, .requestPage,
      .complete (.page ⟨1, { source := .feed 1 }, 1⟩ (.error .timeout)), .requestPage]

/-- The page arrives and takes the place of the story. The next one fails for want of a connection,
and the cache, which has got back what it had in the beginning, is asked in vain. -/
theorem offline_before_first_page_awaitingServer :
    let arrived := Act.complete (.page ⟨1, { source := .feed 1 }, 1⟩
      (.ok [{ id := ⟨"1:a"⟩, feedId := 1, title := "a" },
        { id := ⟨"1:b"⟩, feedId := 1, title := "b" }]))
    let later := [.requestPage,
      .complete (.page ⟨1, { source := .feed 1 }, 2⟩ (.error .timeout)), .useCache staleCache]
    awaitingServer.fetch.online = false ∧ awaitingServer.fetch.page = 0 ∧
      awaitingServer.seeded = true ∧ awaitingServer.collection.stories ≠ [] ∧
      ((awaitingServer.step arrived).run later).loadOffline =
        ((awaitingServer.step arrived).run later, 0) := by
  intro arrived later
  have hl : Reachable awaitingServer := (Reachable.new _ _ _).run _
  obtain ⟨hpage, hseeded, hlater⟩ := offline_before_first_page hl
  have honline : awaitingServer.fetch.online = false := by decide +kernel
  have hstories : awaitingServer.collection.stories ≠ [] := by decide +kernel
  have hzero := hpage (.inl honline)
  exact ⟨honline, hzero, (hseeded hzero).mpr hstories, hstories,
    hlater arrived _ later rfl (by decide +kernel)⟩

end Loader

end FeedReader
