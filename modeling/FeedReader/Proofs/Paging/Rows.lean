import FeedReader.Proofs.Paging.Reports

/-!
# The rows of a presenter

A presenter need not look at the collection to know which stories are in it, and in which order.
It keeps a list of rows, one for each story, and follows the reports: stories that were **added**
get rows behind those that are there, stories that **replace** the collection are all the rows from
then on, and any other report leaves the rows alone. At a reset the rows are emptied.

Every act of a stream keeps such a list right (`FeedReader.Loader.rowsAfter_reports`), so **the rows
are the ids of the collection at every moment of every run**; and as the collection holds no story
twice, a story that is reported as added has no row yet.
-/

namespace FeedReader

open Collection

/-- The rows of a presenter after a report. -/
def Event.updateRows (rows : List StoryId) : Event → List StoryId
  | added stories => rows ++ stories.map Story.id
  | replaced stories => stories.map Story.id
  | changed _ | fetchState _ | level _ | error _ => rows

namespace Loader

/-- The rows after some reports. -/
def rowsAfter (rows : List StoryId) (events : List Event) : List StoryId :=
  events.foldl Event.updateRows rows

/-- The rows when an act begins to report: none at a reset. -/
def rowsBefore (rows : List StoryId) (act : Act) : List StoryId :=
  if act.isReset then [] else rows

/-- The rows of a presenter that has followed a run from its beginning. -/
def rows (l : Loader) (acts : List Act) : List StoryId :=
  (l.history acts).foldl (fun rows pair => rowsAfter (rowsBefore rows pair.2) (reports pair)) []

theorem rows_concat (l : Loader) (acts : List Act) (act : Act) :
    l.rows (acts ++ [act]) =
      rowsAfter (rowsBefore (l.rows acts) act) (reports (l.run acts, act)) := by
  rw [rows, history_append, List.foldl_append]
  rfl

theorem rowsAfter_append (rows : List StoryId) (events events' : List Event) :
    rowsAfter rows (events ++ events') = rowsAfter (rowsAfter rows events) events' :=
  List.foldl_append

/-! ### Reports that leave the rows alone -/

theorem rowsAfter_of_notes {notes : List Event} (h : ∀ event ∈ notes, event.isNote = true)
    (rows : List StoryId) : rowsAfter rows notes = rows := by
  induction notes with
  | nil => rfl
  | cons note notes ih =>
    obtain ⟨hnote, hnotes⟩ := List.forall_mem_cons.mp h
    have hkept : Event.updateRows rows note = rows := by
      cases note <;> first | rfl | cases hnote
    rw [rowsAfter, List.foldl_cons, hkept]
    exact ih hnotes

theorem rowsAfter_changedEvents (change : FlagChange) (targets : List (StoryId × Bool))
    (c : Collection) (rows : List StoryId) :
    rowsAfter rows (changedEvents change targets c) = rows := by
  induction targets generalizing c with
  | nil => rfl
  | cons target targets ih =>
    rw [changedEvents, rowsAfter_append]
    cases c.find? target.1 <;> exact ih _

/-! ### Reports of stories -/

theorem rowsAfter_addedEvents (rows : List StoryId) (added : List Story) :
    rowsAfter rows (addedEvents added) = rows ++ added.map Story.id := by
  unfold addedEvents
  split
  · next hempty => simp [List.isEmpty_iff.mp hempty, rowsAfter]
  · rfl

variable {l : Loader} {act : Act}

theorem ids_heldAt (l : Loader) (act : Act) :
    (l.heldAt act).ids = rowsBefore l.collection.ids act := by
  unfold heldAt rowsBefore
  split <;> rfl

theorem nodup_ids_heldAt (hl : Reachable l) (act : Act) : (l.heldAt act).ids.Nodup := by
  rw [ids_heldAt, rowsBefore]
  split
  · exact List.nodup_nil
  · exact hl.nodup_ids

/-- **Every act keeps the rows right.** -/
theorem rowsAfter_reports (hl : Reachable l) (act : Act) :
    rowsAfter (rowsBefore l.collection.ids act) (reports (l, act)) =
      (l.step act).collection.ids := by
  cases reporting hl act with
  | notes notes hreset hnotes hevents hcollection =>
    rw [reports_eq hevents, rowsAfter_of_notes hnotes, hcollection, rowsBefore, hreset]
    rfl
  | flags change targets notes hreset hnodup hnotes hevents hcollection =>
    rw [reports_eq hevents, rowsAfter_append, rowsAfter_changedEvents, rowsAfter_of_notes hnotes,
      hcollection, ids_setFlags, rowsBefore, hreset]
    rfl
  | batch batch notes hnotes hevents hcollection =>
    have hids : (l.step act).collection.ids = ((l.heldAt act).merge batch).ids := by
      rw [hcollection]
      exact ids_eq_of_unflagged (unflagged_foldl_reapply _ _)
    rw [reports_eq hevents, rowsAfter_append, rowsAfter_addedEvents, rowsAfter_of_notes hnotes,
      hids, ids_merge_eq_append, ids_heldAt]
  | page merge notes hmerge hseeded hnotes hevents =>
    rw [reports_eq hevents, rowsAfter, List.foldl_cons]
    exact rowsAfter_of_notes hnotes _

theorem rows_run (hl : Reachable l) (hempty : l.collection.ids = []) (acts : List Act) :
    l.rows acts = (l.run acts).collection.ids := by
  induction acts using List.reverseRecOn with
  | nil => exact hempty.symm
  | append_singleton acts act ih =>
    rw [rows_concat, ih, rowsAfter_reports (hl.run acts) act, run_append]
    rfl

/-- Where a batch is reported as added, this is the first report, and the only one of the kind. -/
theorem eq_of_addedEvents_append {added stories : List Story} {notes before after : List Event}
    (hnotes : ∀ event ∈ notes, event.isNote = true)
    (h : addedEvents added ++ notes = before ++ .added stories :: after) :
    before = [] ∧ added = stories ∧ stories ≠ [] := by
  have hnot : Event.added stories ∉ notes := Event.not_mem_of_forall_isNote hnotes rfl
  unfold addedEvents at h
  split at h
  · rw [List.nil_append] at h
    exact absurd (h ▸ List.mem_append_right before List.mem_cons_self) hnot
  · next hempty =>
    cases before with
    | nil =>
      simp only [List.cons_append, List.nil_append, List.cons.injEq, Event.added.injEq] at h
      obtain ⟨rfl, -⟩ := h
      exact ⟨rfl, rfl, by simpa using hempty⟩
    | cons first before =>
      simp only [List.cons_append, List.nil_append, List.cons.injEq] at h
      exact absurd (h.2 ▸ List.mem_append_right before List.mem_cons_self) hnot

/-- **Stories that are reported as added are new**: there are some, no two have the same id, and
none has a row. -/
theorem added_new (hl : Reachable l) {before after : List Event} {stories : List Story}
    (h : reports (l, act) = before ++ .added stories :: after) :
    stories ≠ [] ∧ (stories.map Story.id).Nodup ∧
      ∀ story ∈ stories, story.id ∉ rowsAfter (rowsBefore l.collection.ids act) before := by
  have hmem : Event.added stories ∈ reports (l, act) := by simp [h]
  have hnotNote : ∀ {notes : List Event}, (∀ event ∈ notes, event.isNote = true) →
      Event.added stories ∉ notes :=
    fun hnotes => Event.not_mem_of_forall_isNote hnotes rfl
  cases reporting hl act with
  | notes notes hreset hnotes hevents hcollection =>
    exact absurd (reports_eq hevents ▸ hmem) (hnotNote hnotes)
  | flags change targets notes hreset hnodup hnotes hevents hcollection =>
    rw [reports_eq hevents] at hmem
    rcases List.mem_append.mp hmem with hchanged | hnote
    · obtain ⟨story, heq, -⟩ := find?_of_mem_changedEvents hnodup hchanged
      cases heq
    · exact absurd hnote (hnotNote hnotes)
  | page merge notes hmerge hseeded hnotes hevents =>
    rw [reports_eq hevents] at hmem
    rcases List.mem_cons.mp hmem with heq | hnote
    · cases heq
    · exact absurd hnote (hnotNote hnotes)
  | batch batch notes hnotes hevents hcollection =>
    rw [reports_eq hevents] at h
    obtain ⟨rfl, rfl, hne⟩ := eq_of_addedEvents_append hnotes h
    have hnodup := nodup_ids_merge (nodup_ids_heldAt hl act) batch
    rw [ids_merge_eq_append, ids_heldAt] at hnodup
    obtain ⟨-, hadded, hdisjoint⟩ := List.nodup_append.mp hnodup
    exact ⟨hne, hadded, fun story hstory hrow =>
      hdisjoint _ hrow _ (List.mem_map_of_mem hstory) rfl⟩

/-- **The reports alone tell which stories there are.** The record of a run is what its acts have
reported. After every run the rows of a presenter that has followed them are the ids of the
collection, in order; and whatever the next act reports as added is not empty, and brings stories
that have no row yet, each once. -/
theorem rows_of_reports (context : Context) (cache : Cache) (pageSize : Nat) (acts : List Act) :
    let start := Loader.new context cache pageSize
    let l := start.run acts
    l.events = (start.history acts).flatMap reports ∧
      start.rows acts = l.collection.ids ∧
      ∀ (act : Act) (before : List Event) (stories : List Story) (after : List Event),
        reports (l, act) = before ++ .added stories :: after →
          stories ≠ [] ∧ (stories.map Story.id).Nodup ∧
            ∀ story ∈ stories, story.id ∉ rowsAfter (rowsBefore (start.rows acts) act) before := by
  intro start l
  have hstart : Reachable start := .new context cache pageSize
  have hevents : l.events = (start.history acts).flatMap reports := events_run hstart acts
  have hrows : start.rows acts = l.collection.ids := rows_run hstart rfl acts
  refine ⟨hevents, hrows, fun act before stories after h => ?_⟩
  rw [hrows]
  exact added_new (hstart.run acts) h

/-- The first page takes the place of the row that the cache has brought, and the second adds one
row to those of the first, although it repeats a story. -/
theorem rows_of_two_pages :
    let start := Loader.new { source := .feed 1 } staleCache 2
    let added : Story := { id := ⟨"1:c"⟩, feedId := 1, title := "c" }
    start.rows (twoPages.take 1) = [⟨"1:old"⟩] ∧
      start.rows (twoPages.take 4) = [⟨"1:a"⟩, ⟨"1:b"⟩] ∧
      added.id ∉ start.rows (twoPages.take 4) ∧
      start.rows twoPages = [⟨"1:a"⟩, ⟨"1:b"⟩, ⟨"1:c"⟩] := by
  intro start added
  have hrows := fun acts => (rows_of_reports { source := .feed 1 } staleCache 2 acts).2.1
  have hnew : added.id ∉ start.rows (twoPages.take 4) := by
    obtain ⟨-, -, hpage⟩ := rows_of_reports { source := .feed 1 } staleCache 2 (twoPages.take 4)
    obtain ⟨-, -, hfresh⟩ := hpage (.complete (.page ⟨1, { source := .feed 1 }, 2⟩
      (.ok [added, { id := ⟨"1:a"⟩, feedId := 1, title := "a, corrected" }])))
      [] [added] [.fetchState { page := 2 }] (by decide +kernel)
    simpa [rowsAfter, rowsBefore, Act.isReset] using hfresh
  exact ⟨(hrows _).trans (by decide +kernel), (hrows _).trans (by decide +kernel), hnew,
    (hrows _).trans (by decide +kernel)⟩

end Loader

end FeedReader
