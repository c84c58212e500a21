import FeedReader.Proofs.Paging.FlagTurn

/-!
# Asking the cache again

A stream begins with what the cache has, and the cache may be asked again while the stream goes on:
by the user, or since the first page has failed for want of a connection. The user may have changed
flags in the meantime, and the server may not have answered.

A page that arrives leaves such flags alone, and one would expect the same of the cache. **This is
not so**: its copies take the place of the stories that are held, flags included, and no pending
change is put on top of them. The change remains pending, and when it is confirmed nobody sets the
flag again.

What is true is that nothing else happens to a flag (`FeedReader.Loader.flag_after_reload`): it has
the value that the cache's copy has, and keeps its own where the cache has no copy. So it is kept
**exactly if the cache offers no other value**, and always once a page has been merged, as the cache
has nothing to offer from then on.
-/

namespace FeedReader

open Collection

namespace Loader

/-- Whether an act asks the cache for the stories of a stream that goes on. -/
def reloads : Loader × Act → Bool
  | (_, .loadOffline) => true
  | (l, .complete (.page ticket (.error cause))) =>
    ticket ∈ l.pendingPages && l.expects ticket && ticket.page = 1 && cause.isConnectivity
  | _ => false

variable {l : Loader} {act : Act}

/-- The first page that fails lets the cache offer what it would offer anyway. -/
theorem collection_of_failed_first_page (hl : Reachable l) {ticket : Ticket} {cause : FetchError}
    (h : reloads (l, .complete (.page ticket (.error cause))) = true) :
    (l.complete (.page ticket (.error cause))).1.collection = l.collection.merge l.offered := by
  simp only [reloads, Bool.and_eq_true, decide_eq_true_eq] at h
  obtain ⟨⟨⟨hmem, hexp⟩, hfirst⟩, hconnectivity⟩ := h
  obtain ⟨merges, hpages, -⟩ := hl.contents
  obtain ⟨hgen, -, -⟩ := (l.expects_iff ticket).mp hexp
  have hpage : l.fetch.page = 0 := by
    have hnext := (hpages.next ticket hmem hgen).2
    omega
  have hoffered : l.offered = (l.cache.load l.context).toOption.getD [] := by
    simp [offered, takesOffline, hpage]
  have hoffline : (decide (ticket.page = 1) && cause.isConnectivity) = true := by
    simp [hfirst, hconnectivity]
  rw [l.complete_page_of_error hmem hexp, failPage_eq, afterFailure, if_pos hoffline,
    loadOffline_eq, hoffered]
  rfl

theorem collection_of_reloads (hl : Reachable l) (h : reloads (l, act) = true) :
    (l.step act).collection = l.collection.merge l.offered := by
  cases act with
  | loadOffline => rw [step, loadOffline_eq]
  | complete completion =>
    cases completion with
    | flag number result => cases h
    | page ticket result =>
      cases result with
      | ok stories => cases h
      | error cause => exact collection_of_failed_first_page hl h
  | _ => cases h

/-- The changes that hold a flag are as pending as before. -/
theorem holders_of_reloads (h : reloads (l, act) = true) (flag : Flag) (id : StoryId) :
    (l.step act).holders flag id = l.holders flag id := by
  cases act with
  | loadOffline =>
    rw [step, loadOffline_eq]
    rfl
  | complete completion =>
    cases completion with
    | flag number result => cases h
    | page ticket result =>
      have hrecord := l.sameRecord_complete_page ticket result
      exact holders_congr hrecord.generation hrecord.pendingChanges
  | _ => cases h

/-- **A flag after the cache has been asked again.** Whatever changes are pending remain so. The
flag is that of the cache's copy of the story, and what it was before if the cache offers none; so
it keeps its value exactly if no copy has another one. Once a page has been merged, nothing changes
at all. -/
theorem flag_after_reload (hl : Reachable l) (hreload : reloads (l, act) = true) (flag : Flag)
    (id : StoryId) :
    (l.step act).holders flag id = l.holders flag id ∧
      (l.step act).collection.flag? flag id =
        ((lastCopy? id l.offered).map flag.get).or (l.collection.flag? flag id) ∧
      ((l.step act).collection.flag? flag id = l.collection.flag? flag id ↔
        ∀ copy, lastCopy? id l.offered = some copy →
          l.collection.flag? flag id = some (flag.get copy)) ∧
      (l.fetch.page ≠ 0 → (l.step act).collection = l.collection) := by
  have hcollection := collection_of_reloads hl hreload
  have hvalue : (l.step act).collection.flag? flag id =
      ((lastCopy? id l.offered).map flag.get).or (l.collection.flag? flag id) := by
    rw [hcollection, flag?_merge]
  refine ⟨holders_of_reloads hreload flag id, hvalue, ?_, fun hpage => ?_⟩
  · rw [hvalue]
    cases hlast : lastCopy? id l.offered with
    | none => simp
    | some copy => simp [eq_comm]
  · obtain ⟨merges, -, hcontents⟩ := hl.contents
    rw [hcollection, hcontents.offered_eq_nil hpage, merge_nil]

/-- A loader that has a story from the cache, which has been marked read, and asks for the first
page. -/
def markedOffline : Loader :=
  (Loader.new { source := .feed 1 } staleCache 2).run
    [.reset { source := .feed 1 }, .mark .markRead ⟨"1:old"⟩, .requestPage]

theorem reachable_markedOffline : Reachable markedOffline := (Reachable.new _ _ _).run _

/-- The server cannot be reached, and the story is unread again while the change is pending. The
other flag has the value that the cache has anyway. -/
theorem flag_after_reload_markedOffline :
    let failed := Act.complete (.page ⟨1, { source := .feed 1 }, 1⟩ (.error .timeout))
    reloads (markedOffline, failed) = true ∧
      markedOffline.collection.flag? .read ⟨"1:old"⟩ = some true ∧
      (markedOffline.step failed).holders .read ⟨"1:old"⟩ =
        [⟨0, 1, .markRead, [(⟨"1:old"⟩, false)]⟩] ∧
      (markedOffline.step failed).collection.flag? .read ⟨"1:old"⟩ = some false ∧
      (markedOffline.step failed).collection.flag? .saved ⟨"1:old"⟩ =
        markedOffline.collection.flag? .saved ⟨"1:old"⟩ := by
  have hreload : reloads (markedOffline, .complete (.page ⟨1, { source := .feed 1 }, 1⟩
      (.error .timeout))) = true := by
    decide +kernel
  obtain ⟨hholders, hread, -⟩ :=
    flag_after_reload reachable_markedOffline hreload .read ⟨"1:old"⟩
  obtain ⟨-, hsaved, -⟩ := flag_after_reload reachable_markedOffline hreload .saved ⟨"1:old"⟩
  exact ⟨hreload, by decide +kernel, hholders.trans (by decide +kernel),
    hread.trans (by decide +kernel), hsaved.trans (by decide +kernel)⟩

/-- **The cache undoes a change that is pending.** A story of the cache is marked read, and the
cache is asked again. -/
theorem not_forall_flag_kept_by_reload :
    ¬∀ (l : Loader) (act : Act) (flag : Flag) (id : StoryId), Reachable l →
      reloads (l, act) = true → l.holders flag id ≠ [] →
        (l.step act).collection.flag? flag id = l.collection.flag? flag id := by
  intro h
  have hwrong := h markedOffline .loadOffline .read ⟨"1:old"⟩ reachable_markedOffline rfl
    (by decide +kernel)
  exact absurd hwrong (by decide +kernel)

end Loader

end FeedReader
