import FeedReader.Proofs.Paging.Rows

/-!
# Stories in reports

A presenter shows the stories that are reported to it, so a report should carry each story as the
collection holds it. **Most reports do**, however many stories an act changes: what an act does to a
story after it has reported it is nothing.

The exception is a page. Its new stories are taken down before the pending changes are put on top
of the collection, and they are reported as they were taken down. So a new story of which a change
is pending is reported with the flag of the page, and held with that of the change
(`FeedReader.Loader.setAfter?`).

How can a change be pending of a story that is new? It cannot, as long as no story is dropped
(`FeedReader.Loader.AllLoaded`). But the first page takes the place of what the cache has brought,
and **a story that the user has changed in the meantime may not be on it**. It comes back with a
later page, and that page is reported wrongly.
-/

namespace FeedReader

open Collection

/-- A story is what the server says of it and its two flags. -/
theorem Story.eq_of_unflagged {story story' : Story} (h : story.unflagged = story'.unflagged)
    (hflags : ∀ flag : Flag, flag.get story = flag.get story') : story = story' := by
  have hread : story.read = story'.read := hflags .read
  have hsaved : story.saved = story'.saved := hflags .saved
  calc
    story = { story.unflagged with read := story.read, saved := story.saved } := rfl
    _ = { story'.unflagged with read := story'.read, saved := story'.saved } := by
      rw [h, hread, hsaved]
    _ = story' := rfl

namespace Collection

theorem mem_ids_merge {c : Collection} {batch : List Story} {id : StoryId} :
    id ∈ (c.merge batch).ids ↔ id ∈ c.ids ∨ id ∈ batch.map Story.id := by
  induction batch generalizing c with
  | nil => simp
  | cons story batch ih =>
    rw [merge_cons, ih, ids_insert, List.map_cons, List.mem_cons]
    split
    · next hheld =>
      constructor
      · rintro (h | h)
        · exact .inl h
        · exact .inr (.inr h)
      · rintro (h | rfl | h)
        · exact .inl h
        · exact .inl hheld
        · exact .inr h
    · rw [List.mem_append, List.mem_singleton, or_assoc]

/-- A story that a batch adds was not held, and is held as it is returned. -/
theorem find?_of_mem_append {c : Collection} (h : c.ids.Nodup) {batch : List Story} {story : Story}
    (hmem : story ∈ (c.append batch).2) :
    story.id ∉ c.ids ∧ (c.merge batch).find? story.id = some story := by
  have hnodup := nodup_ids_merge h batch
  refine ⟨fun hheld => ?_, find?_eq_some_of_mem hnodup (List.mem_of_mem_drop hmem)⟩
  rw [ids_merge_eq_append] at hnodup
  exact (List.nodup_append.mp hnodup).2.2 _ hheld _ (List.mem_map_of_mem hmem) rfl

end Collection

namespace Loader

variable {l : Loader} {act : Act}

/-! ### How a story is reported and how it is held -/

/-- The value that a flag of a story gets after the story has been taken down for a report, if it
gets one: that of the last pending change, if a page has added the story. -/
def setAfter? (flag : Flag) (id : StoryId) (pair : Loader × Act) : Event → Option Bool
  | .added _ => if (merge? pair).isSome then pair.1.heldAt? flag id else none
  | _ => none

/-- Changes that are put on top of a story change nothing but flags. -/
theorem exists_find?_reapply (changes : List PendingChange) {c : Collection} {story : Story}
    (hfind : c.find? story.id = some story) :
    ∃ copy, (changes.foldl reapply c).find? story.id = some copy ∧
      copy.unflagged = story.unflagged ∧
      ∀ flag : Flag, flag.get copy = ((changes.filter fun p => p.holds flag story.id).getLast?.map
        fun p => p.change.target).getD (flag.get story) := by
  have hunflagged := congrArg (fun c => c.find? story.id) (unflagged_foldl_reapply changes c)
  simp only [find?_unflagged, hfind, Option.map_some, Option.map_eq_some_iff] at hunflagged
  obtain ⟨copy, hcopy, heq⟩ := hunflagged
  refine ⟨copy, hcopy, heq, fun flag => ?_⟩
  have hvalue := flag?_foldl_reapply changes c flag story.id
  rw [flag?, flag?, hcopy, hfind] at hvalue
  exact Option.some.inj hvalue

/-- **A story is reported as it is held**, unless it is reported as one of those that a batch has
brought. Then changes may have been put on top of it. -/
theorem reported_cases (hl : Reachable l) {event : Event} (hevent : event ∈ reports (l, act))
    {story : Story} (hstory : story ∈ event.stories) :
    ((∀ stories, event ≠ .added stories) ∧
        (l.step act).collection.find? story.id = some story) ∨
      ∃ batch, event = .added ((l.heldAt act).append batch).2 ∧
        (l.step act).collection = (l.laidOver act).foldl reapply ((l.heldAt act).merge batch) := by
  have hnote : ∀ {notes : List Event}, (∀ event ∈ notes, event.isNote = true) → event ∉ notes :=
    fun hnotes =>
      Event.not_mem_of_forall_isNote hnotes (Event.isNote_eq_false_of_mem_stories hstory)
  cases reporting hl act with
  | notes notes hreset hnotes hevents hcollection =>
    rw [reports_eq hevents] at hevent
    exact absurd hevent (hnote hnotes)
  | flags change targets notes hreset hnodup hnotes hevents hcollection =>
    rw [reports_eq hevents] at hevent
    rcases List.mem_append.mp hevent with hchanged | hmem
    · obtain ⟨changed, rfl, hfind⟩ := find?_of_mem_changedEvents hnodup hchanged
      obtain rfl := List.mem_singleton.mp hstory
      exact .inl ⟨nofun, hcollection ▸ hfind⟩
    · exact absurd hmem (hnote hnotes)
  | page merge notes hmerge hseeded hnotes hevents =>
    rw [reports_eq hevents] at hevent
    rcases List.mem_cons.mp hevent with rfl | hmem
    · exact .inl ⟨nofun, find?_eq_some_of_mem (hl.step act).nodup_ids hstory⟩
    · exact absurd hmem (hnote hnotes)
  | batch batch notes hnotes hevents hcollection =>
    rw [reports_eq hevents] at hevent
    rcases List.mem_append.mp hevent with hadded | hmem
    · unfold addedEvents at hadded
      split at hadded
      · cases hadded
      · exact .inr ⟨batch, List.mem_singleton.mp hadded, hcollection⟩
    · exact absurd hmem (hnote hnotes)

/-- **A story that is reported is held**, and differs from what is reported in those flags at most
that are set after it has been taken down. If it is reported as added, it was not held before. -/
theorem exists_copy (hl : Reachable l) {event : Event} (hevent : event ∈ reports (l, act))
    {story : Story} (hstory : story ∈ event.stories) :
    (∃ copy, (l.step act).collection.find? story.id = some copy ∧
        copy.unflagged = story.unflagged ∧
        ∀ flag : Flag,
          flag.get copy = (setAfter? flag story.id (l, act) event).getD (flag.get story)) ∧
      ∀ stories, event = .added stories → story.id ∉ (l.heldAt act).ids := by
  rcases reported_cases hl hevent hstory with ⟨hother, hfind⟩ | ⟨batch, rfl, hcollection⟩
  · refine ⟨⟨story, hfind, rfl, fun flag => ?_⟩, fun stories h => absurd h (hother stories)⟩
    cases event with
    | added stories => exact absurd rfl (hother stories)
    | _ => rfl
  · obtain ⟨hnew, hfind⟩ := find?_of_mem_append (nodup_ids_heldAt hl act) hstory
    obtain ⟨copy, hcopy, hunflagged, hflags⟩ := exists_find?_reapply (l.laidOver act) hfind
    refine ⟨⟨copy, hcollection ▸ hcopy, hunflagged, fun flag => (hflags flag).trans ?_⟩,
      fun _ _ => hnew⟩
    unfold setAfter? laidOver
    cases (merge? (l, act)).isSome <;> rfl

/-! ### Changes of stories that are not loaded -/

/-- Whether all stories are loaded of which a change is pending. -/
def AllLoaded (l : Loader) : Prop :=
  ∀ pending ∈ l.currentChanges, ∀ id ∈ pending.targets.map Prod.fst, id ∈ l.collection.ids

/-- Whether an act drops a story of which a change is pending: a page takes the place of what the
cache has brought, and does not bring the story. -/
def dropsChanged (pair : Loader × Act) : Bool :=
  match merge? pair with
  | some merge =>
    pair.1.seeded && pair.1.currentChanges.any fun pending =>
      (pending.targets.map Prod.fst).any fun id => id ∉ merge.stories.map Story.id
  | none => false

/-- No act but such a one loses a story. -/
theorem mem_ids_step (hl : Reachable l) (hreset : act.isReset = false)
    (hdrops : dropsChanged (l, act) = false) {pending : PendingChange}
    (hpending : pending ∈ l.currentChanges) {id : StoryId}
    (htarget : id ∈ pending.targets.map Prod.fst) (hid : id ∈ l.collection.ids) :
    id ∈ (l.step act).collection.ids := by
  cases reporting hl act with
  | notes notes hreset hnotes hevents hcollection => rwa [hcollection]
  | flags change targets notes hreset hnodup hnotes hevents hcollection =>
    rwa [hcollection, ids_setFlags]
  | batch batch notes hnotes hevents hcollection =>
    rw [hcollection, ids_eq_of_unflagged (unflagged_foldl_reapply _ _), mem_ids_merge, heldAt,
      hreset]
    exact .inl hid
  | page merge notes hmerge hseeded hnotes hevents =>
    rw [(step_merged hl hmerge).collection, ids_eq_of_unflagged (unflagged_foldl_reapply _ _),
      mem_ids_merge]
    refine .inr ?_
    by_contra hnot
    have hdropped : dropsChanged (l, act) = true := by
      simp only [dropsChanged, hmerge, hseeded, Bool.true_and, List.any_eq_true]
      exact ⟨pending, hpending, id, htarget, decide_eq_true hnot⟩
    rw [hdrops] at hdropped
    cases hdropped

theorem AllLoaded.step (hl : Reachable l)
    (h : act.isReset = false → AllLoaded l ∧ dropsChanged (l, act) = false) :
    AllLoaded (l.step act) := by
  intro pending hpending id htarget
  obtain ⟨hmem, hgen⟩ := List.mem_filter.mp hpending
  rcases mem_pendingChanges_step hmem with hold | ⟨htargets, hids, -⟩
  · rw [decide_eq_true_eq, step_generation] at hgen
    cases hreset : act.isReset with
    | true =>
      -- A stream that begins owes nothing to changes of an earlier one.
      have hle := hl.ledger.generation_le pending hold
      rw [hreset, if_pos rfl] at hgen
      omega
    | false =>
      obtain ⟨hloaded, hdrops⟩ := h hreset
      have hcurrent : pending ∈ l.currentChanges :=
        List.mem_filter.mpr ⟨hold, decide_eq_true (by simpa [hreset] using hgen)⟩
      exact mem_ids_step hl hreset hdrops hcurrent htarget (hloaded pending hcurrent id htarget)
  · rw [hids]
    exact htargets.subset htarget

/-- If no story is dropped of which a change is pending, all such stories are loaded. -/
theorem AllLoaded.run (hl : Reachable l) (h : AllLoaded l) {acts : List Act}
    (hacts : ∀ pair ∈ l.history acts, pair.1.generation = (l.run acts).generation →
      dropsChanged pair = false) : AllLoaded (l.run acts) := by
  induction acts using List.reverseRecOn with
  | nil => exact h
  | append_singleton acts act ih =>
    simp only [run_append, run_cons, run_nil, history_append, List.forall_mem_append] at hacts ⊢
    obtain ⟨hbefore, hact⟩ := hacts
    refine AllLoaded.step (hl.run acts) fun hreset => ?_
    have hgen : ((l.run acts).step act).generation = (l.run acts).generation := by
      simp [step_generation, hreset]
    rw [hgen] at hbefore hact
    exact ⟨ih hbefore, hact _ (List.mem_singleton.mpr rfl) rfl⟩

/-- Of a story that is not loaded no change is pending then. -/
theorem AllLoaded.heldAt?_eq_none (h : AllLoaded l) {id : StoryId} (hid : id ∉ l.collection.ids)
    (flag : Flag) : l.heldAt? flag id = none := by
  have hnone : l.holders flag id = [] := by
    refine List.filter_eq_nil_iff.mpr fun pending hpending hholds => hid ?_
    exact h pending hpending id (PendingChange.holds_iff.mp hholds).2
  rw [heldAt?, hnone]
  rfl

/-! ### The reports of a run -/

/-- **How stories are reported.** After an act every story that it has reported is held, the same
but for its flags; and it is held just as it was reported exactly if no pending change has set one
of its flags to another value after it was taken down. This is so for all stories that are reported
unless a story of which a change was pending has been dropped since the stream began. -/
theorem reported_stories (context : Context) (cache : Cache) (pageSize : Nat) (acts : List Act)
    (act : Act) :
    let start := Loader.new context cache pageSize
    let l := start.run acts
    ∀ event ∈ reports (l, act), ∀ story ∈ event.stories,
      ∃ copy, (l.step act).collection.find? story.id = some copy ∧
        copy.unflagged = story.unflagged ∧
        (copy = story ↔ ∀ flag value, setAfter? flag story.id (l, act) event = some value →
          flag.get story = value) ∧
        ((∀ pair ∈ start.history acts, pair.1.generation = l.generation →
          dropsChanged pair = false) → copy = story) := by
  intro start l event hevent story hstory
  have hstart : Reachable start := .new context cache pageSize
  obtain ⟨⟨copy, hcopy, hunflagged, hflags⟩, hnew⟩ :=
    exists_copy (hstart.run acts) hevent hstory
  have hcurrent : copy = story ↔ ∀ flag value,
      setAfter? flag story.id (l, act) event = some value → flag.get story = value := by
    constructor
    · rintro rfl flag value hset
      rw [hflags flag, hset, Option.getD_some]
    · intro h
      refine Story.eq_of_unflagged hunflagged fun flag => ?_
      rw [hflags flag]
      cases hset : setAfter? flag story.id (l, act) event with
      | none => rfl
      | some value => exact (h flag value hset).symm
  refine ⟨copy, hcopy, hunflagged, hcurrent, fun hkept => hcurrent.mpr fun flag value hset => ?_⟩
  have hloaded : AllLoaded l := by
    refine AllLoaded.run hstart (fun pending hpending => ?_) hkept
    simp [currentChanges, start, Loader.new] at hpending
  -- Only a page sets a flag later, and only of a story that was not loaded before.
  cases event with
  | added stories =>
    simp only [setAfter?, Option.ite_none_right_eq_some] at hset
    obtain ⟨hmerge, hheld⟩ := hset
    obtain ⟨merge, hmerge⟩ := Option.isSome_iff_exists.mp hmerge
    obtain ⟨rfl, -, -⟩ := merge?_eq_some.mp hmerge
    rw [hloaded.heldAt?_eq_none (hnew stories rfl)] at hheld
    cases hheld
  | _ => cases hset

/-- The story of the cache is marked read before the first page arrives, and the second page is
asked for. -/
def markedBefore (page : List Story) : List Act :=
  [.reset { source := .feed 1 }, .mark .markRead ⟨"1:old"⟩, .requestPage,
    .complete (.page ⟨1, { source := .feed 1 }, 1⟩ (.ok page)), .requestPage]

/-- The answer to the second page. -/
def secondPage (page : List Story) : Act :=
  .complete (.page ⟨1, { source := .feed 1 }, 2⟩ (.ok page))

/-- Both pages have a copy of the story that is unread. The change is pending when the second one
arrives, but the story has not been dropped, and what is new is reported as it is held. -/
theorem reported_stories_markedBefore :
    let old : Story := { id := ⟨"1:old"⟩, feedId := 1, title := "old" }
    let new : Story := { id := ⟨"1:b"⟩, feedId := 1, title := "b" }
    let l := (Loader.new { source := .feed 1 } staleCache 1).run (markedBefore [old])
    .added [new] ∈ reports (l, secondPage [new, old]) ∧
      (l.step (secondPage [new, old])).collection.find? new.id = some new ∧
      (l.step (secondPage [new, old])).collection.flag? .read old.id = some true := by
  intro old new l
  have hevent : .added [new] ∈ reports (l, secondPage [new, old]) := by decide +kernel
  obtain ⟨copy, hcopy, -, -, hkept⟩ := reported_stories { source := .feed 1 } staleCache 1
    (markedBefore [old]) (secondPage [new, old]) (.added [new]) hevent new
    (List.mem_singleton.mpr rfl)
  obtain rfl : copy = new := hkept (by decide +kernel)
  exact ⟨hevent, hcopy, by decide +kernel⟩

/-- **A story can be reported unread that is held read**: the first page drops the story that has
been marked, and the second one brings it again. -/
theorem not_forall_reported_as_held :
    ¬∀ (context : Context) (cache : Cache) (pageSize : Nat) (acts : List Act) (act : Act),
      let l := (Loader.new context cache pageSize).run acts
      ∀ event ∈ reports (l, act), ∀ story ∈ event.stories,
        (l.step act).collection.find? story.id = some story := by
  intro h
  have hwrong := h { source := .feed 1 } staleCache 1
    (markedBefore [{ id := ⟨"1:a"⟩, feedId := 1, title := "a" }])
    (secondPage [{ id := ⟨"1:old"⟩, feedId := 1, title := "old" }])
    (.added [{ id := ⟨"1:old"⟩, feedId := 1, title := "old" }]) (by decide +kernel)
    { id := ⟨"1:old"⟩, feedId := 1, title := "old" } (List.mem_singleton.mpr rfl)
  exact absurd hwrong (by decide +kernel)

end Loader

end FeedReader
