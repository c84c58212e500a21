import FeedReader.Proofs.Paging.FlagTurn

/-!
# What an act reports

Whatever an act reports is put behind what has been reported before, so the *reports* of an act
are what it adds to the record. Most reports carry stories, and those of one act go together with
what the act does to the collection. There are four ways in which an act can report
(`FeedReader.Loader.Reporting`):

* it leaves the collection alone, and there are **notes** at most, which carry no story;
* it sets a flag of some stories, and reports **each of them** as it is then;
* it takes a batch in, from the cache or from a page, and reports **those stories that are new**;
* it puts a page in the place of what the cache had, and reports **all** that is held then.

No later proof asks which act it was, or what an operation does, to know what is reported.
-/

namespace FeedReader

open Collection

namespace Event

/-- The stories that a report carries. -/
def stories : Event → List Story
  | added stories | replaced stories => stories
  | changed story => [story]
  | fetchState _ | level _ | error _ => []

/-- Whether a report speaks of no story. -/
def isNote : Event → Bool
  | fetchState _ | level _ | error _ => true
  | added _ | replaced _ | changed _ => false

theorem isNote_eq_false_of_mem_stories {event : Event} {story : Story}
    (h : story ∈ event.stories) : event.isNote = false := by
  cases event <;> first | rfl | cases h

theorem not_mem_of_forall_isNote {notes : List Event} (h : ∀ event ∈ notes, event.isNote = true)
    {event : Event} (hevent : event.isNote = false) : event ∉ notes := by
  intro hmem
  rw [h event hmem] at hevent
  cases hevent

end Event

/-! ### Setting a flag of several stories, once each -/

namespace Collection

theorem valueFor?_of_mem {targets : List (StoryId × Bool)} (hnodup : (targets.map Prod.fst).Nodup)
    {target : StoryId × Bool} (hmem : target ∈ targets) :
    valueFor? targets target.1 = some target.2 := by
  induction targets with
  | nil => cases hmem
  | cons first rest ih =>
    obtain ⟨hfirst, hrest⟩ := List.nodup_cons.mp hnodup
    rcases List.mem_cons.mp hmem with rfl | hmem
    · have hnone : rest.filter (fun t => t.1 = target.1) = [] := by
        refine List.filter_eq_nil_iff.mpr fun t ht => ?_
        have hne : t.1 ≠ target.1 := fun heq => hfirst (heq ▸ List.mem_map_of_mem ht)
        simpa using hne
      simp [valueFor?, hnone]
    · have hne : first.1 ≠ target.1 := fun heq => hfirst (heq ▸ List.mem_map_of_mem hmem)
      rw [← ih hrest hmem, valueFor?, valueFor?, List.filter_cons_of_neg (by simpa using hne)]

end Collection

namespace Loader

/-- Each report is about a story of the collection, as it was when the first flag was set, with the
value that it gets. -/
theorem exists_of_mem_changedEvents {change : FlagChange} {targets : List (StoryId × Bool)}
    {c : Collection} (hnodup : (targets.map Prod.fst).Nodup) {event : Event}
    (h : event ∈ changedEvents change targets c) :
    ∃ target ∈ targets, ∃ story, c.find? target.1 = some story ∧
      event = .changed (change.set target.2 story) := by
  induction targets generalizing c with
  | nil => cases h
  | cons first rest ih =>
    obtain ⟨hfirst, hrest⟩ := List.nodup_cons.mp hnodup
    rcases List.mem_append.mp h with h | h
    · obtain ⟨story, hstory, rfl⟩ := List.mem_map.mp h
      exact ⟨first, List.mem_cons_self, story, Option.mem_toList.mp hstory, rfl⟩
    · obtain ⟨target, htarget, story, hstory, rfl⟩ := ih hrest h
      refine ⟨target, List.mem_cons_of_mem _ htarget, story, ?_, rfl⟩
      -- The flag of the first story has been set already, but this is another story.
      have hne : ¬target.1 = first.1 := fun heq => hfirst (heq ▸ List.mem_map_of_mem htarget)
      rw [find?_modify (change.id_set first.2)] at hstory
      obtain ⟨before, hbefore, heq⟩ := Option.map_eq_some_iff.mp hstory
      rw [if_neg (id_of_find? hbefore ▸ hne)] at heq
      rw [hbefore, heq]

/-- **A story is reported as it is held when all flags have been set**: none is set twice. -/
theorem find?_of_mem_changedEvents {change : FlagChange} {targets : List (StoryId × Bool)}
    {c : Collection} (hnodup : (targets.map Prod.fst).Nodup) {event : Event}
    (h : event ∈ changedEvents change targets c) :
    ∃ story, event = .changed story ∧
      (c.setFlags change targets).find? story.id = some story := by
  obtain ⟨target, htarget, story, hstory, rfl⟩ := exists_of_mem_changedEvents hnodup h
  refine ⟨_, rfl, ?_⟩
  have hid : (change.set target.2 story).id = target.1 :=
    (change.id_set target.2 story).trans (id_of_find? hstory)
  rw [hid, find?_setFlags, hstory, valueFor?_of_mem hnodup htarget]
  rfl

/-! ### Whom a pending change concerns -/

/-- The flag change that a call asks for, and the story that it names. A change of all stories names
none. -/
def askedChange? : Call → Option (FlagChange × Option StoryId)
  | .fetch _ _ => none
  | .mark change id => some (change, if change = .markAllRead then none else some id)
  | .markContextRead _ => some (.markAllRead, none)

variable {l : Loader} {act : Act}

/-- A change that is pending after an act was pending before, or it has just been made. Then it
concerns stories that are held, each once, and they stay; and the server has been asked for it. -/
theorem mem_pendingChanges_step {pending : PendingChange}
    (h : pending ∈ (l.step act).pendingChanges) :
    pending ∈ l.pendingChanges ∨
      (pending.targets.map Prod.fst).Sublist l.collection.ids ∧
        (l.step act).collection.ids = l.collection.ids ∧
        ∃ call, (l.step act).requests = l.requests ++ [.flag pending.number call] ∧
          pending.number = l.nextNumber ∧
          askedChange? call = some (pending.change, namedStory pending) := by
  cases act with
  | reset context =>
    rw [step, reset_eq, loadOffline_eq] at h
    exact .inl h
  | loadOffline =>
    rw [step, loadOffline_eq] at h
    exact .inl h
  | changeLevel level => exact .inl h
  | useCache cache => exact .inl h
  | requestPage =>
    refine .inl ?_
    cases hidle : l.fetch.isIdle with
    | false => rwa [step, l.requestPage_of_busy hidle] at h
    | true => rwa [step, l.requestPage_of_idle hidle] at h
  | mark change id =>
    have hids : (l.mark change id).1.collection.ids = l.collection.ids :=
      ids_eq_of_unflagged (l.samePlace_mark change id).unflagged
    cases hfind : l.collection.find? id with
    | none =>
      rw [step, l.mark_of_unknown change hfind] at h
      exact .inl h
    | some story =>
      by_cases hset : change.get story = change.target
      · rw [step, l.mark_of_set hfind hset] at h
        exact .inl h
      · rw [step, l.mark_of_unset hfind hset] at h
        rcases List.mem_append.mp h with h | h
        · exact .inl h
        · obtain rfl := List.mem_singleton.mp h
          obtain rfl := id_of_find? hfind
          refine .inr ⟨List.singleton_sublist.mpr (mem_ids_of_find? hfind), hids,
            .mark change story.id, ?_, rfl, ?_⟩
          · rw [step, l.mark_of_unset hfind hset]
            rfl
          · cases change <;> rfl
  | markAllRead =>
    have hids : l.markAllRead.1.collection.ids = l.collection.ids :=
      ids_eq_of_unflagged l.samePlace_markAllRead.unflagged
    rw [step, markAllRead_eq] at h
    rcases List.mem_append.mp h with h | h
    · exact .inl h
    · obtain rfl := List.mem_singleton.mp h
      refine .inr ⟨?_, hids, .markContextRead l.context, by rw [step, markAllRead_eq], rfl, rfl⟩
      have hunread : l.collection.unreadIds.Sublist l.collection.ids :=
        List.filter_sublist.map Story.id
      simpa [Function.comp_def] using hunread
  | complete completion =>
    refine .inl ?_
    cases completion with
    | page ticket result => exact (l.sameRecord_complete_page ticket result).pendingChanges ▸ h
    | flag number result =>
      cases hfind : l.pendingChange? number with
      | none => rwa [step, l.complete_flag_of_unknown hfind result] at h
      | some pending' =>
        rw [step, (l.pendingChanges_complete_flag hfind result).1] at h
        exact List.mem_of_mem_filter h

/-- No change concerns a story twice. -/
theorem Reachable.nodup_targets (hl : Reachable l) :
    ∀ pending ∈ l.pendingChanges, (pending.targets.map Prod.fst).Nodup := by
  induction hl with
  | new context cache pageSize => simp [Loader.new]
  | step act hl ih =>
    intro pending hmem
    rcases mem_pendingChanges_step hmem with hmem | ⟨hsublist, -⟩
    · exact ih pending hmem
    · exact hl.nodup_ids.sublist hsublist

/-! ### The reports of an act -/

/-- What an act reports, in order. -/
def reports (pair : Loader × Act) : List Event :=
  (pair.1.step pair.2).events.drop pair.1.events.length

theorem reports_eq {events : List Event} (h : (l.step act).events = l.events ++ events) :
    reports (l, act) = events := by
  rw [reports, h, List.drop_left]

/-- What is held when an act brings stories: nothing if a stream begins. -/
def heldAt (l : Loader) (act : Act) : Collection := if act.isReset then {} else l.collection

/-- The changes that are put on top of the stories that an act brings: those that are pending if a
page brings them, and none if the cache does. -/
def laidOver (l : Loader) (act : Act) : List PendingChange :=
  if (merge? (l, act)).isSome then l.currentChanges else []

/-- **How an act reports.** -/
inductive Reporting (l : Loader) (act : Act) : Prop
  | notes (notes : List Event)
    (hreset : act.isReset = false)
    (hnotes : ∀ event ∈ notes, event.isNote = true)
    (hevents : (l.step act).events = l.events ++ notes)
    (hcollection : (l.step act).collection = l.collection)
  | flags (change : FlagChange) (targets : List (StoryId × Bool)) (notes : List Event)
    (hreset : act.isReset = false)
    (hnodup : (targets.map Prod.fst).Nodup)
    (hnotes : ∀ event ∈ notes, event.isNote = true)
    (hevents : (l.step act).events =
      l.events ++ (changedEvents change targets l.collection ++ notes))
    (hcollection : (l.step act).collection = l.collection.setFlags change targets)
  | batch (batch : List Story) (notes : List Event)
    (hnotes : ∀ event ∈ notes, event.isNote = true)
    (hevents : (l.step act).events =
      l.events ++ (addedEvents ((l.heldAt act).append batch).2 ++ notes))
    (hcollection : (l.step act).collection =
      (l.laidOver act).foldl reapply ((l.heldAt act).merge batch))
  | page (merge : Merge) (notes : List Event)
    (hmerge : merge? (l, act) = some merge)
    (hseeded : l.seeded = true)
    (hnotes : ∀ event ∈ notes, event.isNote = true)
    (hevents : (l.step act).events =
      l.events ++ (.replaced (l.step act).collection.stories :: notes))

theorem reporting_reset (context : Context) : Reporting l (.reset context) := by
  refine .batch (l.beginning context).offered [.fetchState .start] (by simp [Event.isNote]) ?_ ?_
  · simp only [step, reset_eq, loadOffline_eq, announce, emit, newlyOffered, List.append_assoc]
    rfl
  · simp only [step, reset_eq, loadOffline_eq]
    rfl

theorem reporting_mark (change : FlagChange) (id : StoryId) : Reporting l (.mark change id) := by
  cases hfind : l.collection.find? id with
  | none =>
    have h := l.mark_of_unknown change hfind
    exact .notes [] rfl (by simp) (by simp [step, h]) (by rw [step, h])
  | some story =>
    by_cases hset : change.get story = change.target
    · have h := l.mark_of_set hfind hset
      exact .notes [] rfl (by simp) (by simp [step, h]) (by rw [step, h])
    · have h := l.mark_of_unset hfind hset
      obtain rfl := id_of_find? hfind
      refine .flags change [(story.id, change.target)] [] rfl (by simp) (by simp) ?_ ?_
      · simp [step, h, marked, changedEvents, hfind]
      · rw [step, h]
        rfl

theorem reporting_markAllRead (hl : Reachable l) : Reporting l .markAllRead := by
  have hsublist : l.collection.unreadIds.Sublist l.collection.ids :=
    List.filter_sublist.map Story.id
  refine .flags .markAllRead (l.collection.unreadIds.map fun id => (id, true)) [] rfl ?_ (by simp)
    ?_ ?_
  · simpa [Function.comp_def] using hl.nodup_ids.sublist hsublist
  · rw [step, markAllRead_eq, List.append_nil]
  · rw [step, markAllRead_eq]

theorem reporting_complete_flag (hl : Reachable l) (number : Nat)
    (result : Except FetchError Unit) : Reporting l (.complete (.flag number result)) := by
  cases hfind : l.pendingChange? number with
  | none =>
    have h := l.complete_flag_of_unknown hfind result
    exact .notes [] rfl (by simp) (by simp [step, h]) (by rw [step, h])
  | some pending =>
    cases result with
    | ok _ =>
      have h := l.complete_flag_of_ok hfind
      refine .notes [] rfl (by simp) ?_ ?_ <;> rw [step, h] <;> split <;>
        first | rfl | exact (List.append_nil _).symm
    | error cause =>
      have h := l.complete_flag_of_error hfind cause
      have hnote : ∀ event ∈ [Event.error (changeError pending cause)], event.isNote = true := by
        simp [Event.isNote]
      by_cases hcurrent : pending.generation = l.generation
      · have hnodup := hl.nodup_targets pending (List.mem_of_find?_eq_some hfind)
        refine .flags pending.change pending.targets _ rfl hnodup hnote ?_ ?_
        · rw [step, h, if_pos hcurrent, takeBack_eq]
          simp only [emit, List.append_assoc]
          rfl
        · rw [step, h, if_pos hcurrent, takeBack_eq]
          rfl
      · refine .notes _ rfl hnote ?_ ?_ <;> rw [step, h, if_neg hcurrent] <;> rfl

theorem reporting_complete_page (ticket : Ticket) (result : Except FetchError (List Story)) :
    Reporting l (.complete (.page ticket result)) := by
  have hmerge := merge?_complete_page l ticket result
  rcases l.complete_page_cases ticket result with
    ⟨hmem, h⟩ | ⟨-, -, h⟩ | ⟨stories, rfl, hmem, hexp, h⟩ | ⟨cause, rfl, hmem, hexp, h⟩
  · exact .notes [] rfl (by simp) (by simp [step, h]) (by rw [step, h])
  · exact .notes [] rfl (by simp) (by simp [step, h, withoutPage]) (by rw [step, h]; rfl)
  · have hmerge : merge? (l, .complete (.page ticket (.ok stories))) = some ⟨ticket, stories⟩ :=
      hmerge.trans (if_pos ⟨hmem, hexp⟩)
    rw [mergePage_eq] at h
    by_cases hreplace : (decide (ticket.page = 1) && (l.withoutPage ticket).seeded) = true
    · rw [if_pos hreplace] at h
      refine .page ⟨ticket, stories⟩
        [.fetchState ((l.withoutPage ticket).fetchAfter ticket.page stories)] hmerge
        (Bool.and_eq_true_iff.mp hreplace).2 (by simp [Event.isNote]) ?_
      rw [step, h]
      simp only [List.append_assoc]
      rfl
    · rw [if_neg hreplace] at h
      have hbase : (l.withoutPage ticket).baseOf ticket.page = l.collection := if_neg hreplace
      refine .batch stories [.fetchState ((l.withoutPage ticket).fetchAfter ticket.page stories)]
        (by simp [Event.isNote]) ?_ ?_
      · rw [step, h]
        simp only [addedBy, hbase, List.append_assoc]
        rfl
      · rw [step, h, laidOver, hmerge]
        simp only [merged, hbase]
        rfl
  · rw [failPage_eq] at h
    have hnotes : ∀ state error, ∀ event ∈ [Event.fetchState state, .error error],
        event.isNote = true := by
      simp [Event.isNote]
    cases hoffline : decide (ticket.page = 1) && cause.isConnectivity with
    | false =>
      refine .notes _ rfl (hnotes (l.fetch.fail) (.pageFailed ticket.page cause)) ?_ ?_ <;>
        rw [step, h, afterFailure, hoffline] <;> rfl
    | true =>
      -- The cache is asked by the loader that has gone offline.
      let offline : Loader :=
        { l.withoutPage ticket with
          fetch := (l.withoutPage ticket).fetch.fail.setOnline false }
      refine .batch offline.offered _
        (hnotes (l.fetch.fail.setOnline false) (.pageFailed ticket.page cause)) ?_ ?_
      · rw [step, h, afterFailure, hoffline, if_pos rfl, loadOffline_eq]
        simp only [List.append_assoc]
        rfl
      · rw [step, h, afterFailure, hoffline, if_pos rfl, loadOffline_eq, laidOver, hmerge]
        rfl

/-- **What an act reports, and what it does to the collection with it.** -/
theorem reporting (hl : Reachable l) (act : Act) : Reporting l act := by
  cases act with
  | reset context => exact reporting_reset context
  | mark change id => exact reporting_mark change id
  | markAllRead => exact reporting_markAllRead hl
  | changeLevel level => exact .notes [.level level] rfl (by simp [Event.isNote]) rfl rfl
  | useCache cache => exact .notes [] rfl (by simp) (List.append_nil _).symm rfl
  | loadOffline =>
    refine .batch l.offered [] (by simp) ?_ ?_
    · rw [step, loadOffline_eq, List.append_nil]
      rfl
    · rw [step, loadOffline_eq]
      rfl
  | requestPage =>
    cases hidle : l.fetch.isIdle with
    | false =>
      have h := l.requestPage_of_busy hidle
      exact .notes [] rfl (by simp) (by simp [step, h]) (by rw [step, h])
    | true =>
      have h := l.requestPage_of_idle hidle
      refine .notes [.fetchState { l.fetch with fetching := true }] rfl (by simp [Event.isNote])
        ?_ ?_ <;> rw [step, h]
  | complete completion =>
    cases completion with
    | page ticket result => exact reporting_complete_page ticket result
    | flag number result => exact reporting_complete_flag hl number result

/-- Reports are put behind those that were made before. -/
theorem events_step (hl : Reachable l) (act : Act) :
    (l.step act).events = l.events ++ reports (l, act) := by
  cases reporting hl act with
  | notes notes hreset hnotes hevents => rw [reports_eq hevents, hevents]
  | flags change targets notes hreset hnodup hnotes hevents => rw [reports_eq hevents, hevents]
  | batch batch notes hnotes hevents => rw [reports_eq hevents, hevents]
  | page merge notes hmerge hseeded hnotes hevents => rw [reports_eq hevents, hevents]

/-- **The record of a run is what its acts have reported**, one after the other. -/
theorem events_run (hl : Reachable l) (acts : List Act) :
    (l.run acts).events = l.events ++ (l.history acts).flatMap reports := by
  induction acts using List.reverseRecOn with
  | nil => simp [history]
  | append_singleton acts act ih =>
    rw [run_append, run_cons, run_nil, events_step (hl.run acts) act, ih, history_append,
      List.flatMap_append, List.append_assoc]
    simp [history]

end Loader

end FeedReader
