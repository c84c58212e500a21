import FeedReader.Proofs.Paging.Ledger

/-!
# A new stream owes nothing to the past

A loader that has been reset is compared with a *fresh* one, new and reset to the same context
over the same cache. The two differ in what they remember: the generation and the numbers of
flag changes have gone on, and requests from before the reset may still be completed.

What a loader remembers of the time before a milestone is a `FeedReader.Loader.Past`, and
`FeedReader.Loader.onto` puts a fresh loader on top of such a past. **Every act goes through
that**: an act of the new stream does on top of the past what it does to the fresh loader, and
the completion of an old request touches the past alone.
-/

namespace FeedReader

/-! ### The same thing, later -/

/-- A ticket of a fresh loader, as it is issued after a milestone. -/
def Ticket.later (mark : Milestone) (ticket : Ticket) : Ticket :=
  { ticket with generation := ticket.generation + mark.generation }

/-- A flag change of a fresh loader, as it is pending after a milestone. -/
def PendingChange.later (mark : Milestone) (pending : PendingChange) : PendingChange :=
  { pending with
    number := pending.number + mark.number
    generation := pending.generation + mark.generation }

/-- A request of a fresh loader, as it is issued after a milestone. -/
def Request.later (mark : Milestone) : Request → Request
  | page ticket => .page (ticket.later mark)
  | flag number call => .flag (number + mark.number) call

/-- What the completion of a later request is to a fresh loader: nothing, if the request was
issued before the milestone. -/
def Completion.since (mark : Milestone) : Completion → Option Completion
  | page ticket result =>
    if ticket.generation ≤ mark.generation then none
    else some (.page { ticket with generation := ticket.generation - mark.generation } result)
  | flag number result =>
    if number < mark.number then none else some (.flag (number - mark.number) result)

/-- What an act after a milestone is to a fresh loader. -/
def Act.since (mark : Milestone) : Act → Option Act
  | complete completion => (completion.since mark).map complete
  | act => some act

/-- Whether a completion is the end of a request. -/
def Completion.answers : Completion → Request → Prop
  | page ticket _, .page ticket' => ticket = ticket'
  | flag number _, .flag number' _ => number = number'
  | _, _ => False

section

variable {mark : Milestone}

theorem Ticket.later_injective : Function.Injective (Ticket.later mark) := by
  rintro ⟨generation, context, page⟩ ⟨generation', context', page'⟩ h
  simpa [Ticket.later] using h

theorem Ticket.later_since {ticket : Ticket} (h : mark.generation < ticket.generation) :
    Ticket.later mark { ticket with generation := ticket.generation - mark.generation } =
      ticket := by
  obtain ⟨generation, context, page⟩ := ticket
  simpa [Ticket.later] using Nat.sub_add_cancel (Nat.le_of_lt h)

/-- The completion of a request from before the milestone is nothing to the fresh loader. -/
theorem Completion.since_of_isBefore {completion : Completion} {request : Request}
    (h : completion.answers request) (hbefore : request.isBefore mark = true) :
    completion.since mark = none := by
  cases completion <;> cases request <;> simp only [answers] at h
  · subst h
    simp [since, Request.isBefore_page.mp hbefore]
  · subst h
    simp [since, Request.isBefore_flag.mp hbefore]

end

namespace Loader

/-! ### A loader on top of a past -/

/-- What a loader remembers of the time before a milestone. -/
structure Past where
  pages : List Ticket
  changes : List PendingChange
  requests : List Request
  events : List Event

namespace Past

/-- Whether nothing of the past reaches beyond the milestone. -/
structure IsBefore (past : Past) (mark : Milestone) : Prop where
  page : ∀ ticket ∈ past.pages, ticket.generation ≤ mark.generation
  number : ∀ pending ∈ past.changes, pending.number < mark.number
  generation : ∀ pending ∈ past.changes, pending.generation ≤ mark.generation

/-- The past with more reports behind those that there are. -/
def reporting (past : Past) (events : List Event) : Past :=
  { past with events := past.events ++ events }

/-- A ticket of the new stream is none of the past. -/
theorem IsBefore.later_not_mem {past : Past} {mark : Milestone} (h : past.IsBefore mark)
    {ticket : Ticket} (hticket : 0 < ticket.generation) : ticket.later mark ∉ past.pages := by
  intro hmem
  have hle : ticket.generation + mark.generation ≤ mark.generation := h.page _ hmem
  omega

theorem IsBefore.reporting {past : Past} {mark : Milestone} (h : past.IsBefore mark)
    (events : List Event) : (past.reporting events).IsBefore mark :=
  ⟨h.page, h.number, h.generation⟩

end Past

/-- The loader as it is when all this has gone before it. -/
def onto (l : Loader) (mark : Milestone) (past : Past) : Loader :=
  { l with
    generation := l.generation + mark.generation
    pendingPages := past.pages ++ l.pendingPages.map (Ticket.later mark)
    pendingChanges := past.changes ++ l.pendingChanges.map (PendingChange.later mark)
    nextNumber := l.nextNumber + mark.number
    requests := past.requests ++ l.requests.map (Request.later mark)
    events := past.events }

/-- A fresh loader has become `l'`, and the same loader on top of the past has become `there`:
both have reported the same, and the past is what it was. -/
def Alike (mark : Milestone) (past : Past) (l l' there : Loader) : Prop :=
  ∃ events, l'.events = l.events ++ events ∧ there = l'.onto mark (past.reporting events)

variable {mark : Milestone} {past : Past}

theorem Alike.refl (l : Loader) : Alike mark past l l (l.onto mark past) :=
  ⟨[], by simp, by simp [Past.reporting]⟩

theorem Alike.emit {l l' there : Loader} (h : Alike mark past l l' there) (event : Event) :
    Alike mark past l (l'.emit event) (there.emit event) := by
  obtain ⟨events, hevents, rfl⟩ := h
  exact ⟨events ++ [event], by simp [Loader.emit, hevents],
    by simp [Loader.emit, onto, Past.reporting]⟩

theorem Alike.announce {l l' there : Loader} (h : Alike mark past l l' there) :
    Alike mark past l l'.announce there.announce := by
  have hfetch : there.fetch = l'.fetch := by
    obtain ⟨_, -, rfl⟩ := h
    rfl
  rw [Loader.announce, Loader.announce, hfetch]
  exact h.emit _

/-! ### Acts of the new stream -/

variable (mark past) (l : Loader)

theorem onto_loadOffline : Alike mark past l l.loadOffline.1 (l.onto mark past).loadOffline.1 := by
  rw [l.loadOffline_eq, (l.onto mark past).loadOffline_eq]
  exact ⟨addedEvents l.newlyOffered, rfl, rfl⟩

theorem onto_beginning (context : Context) :
    (l.onto mark past).beginning context = (l.beginning context).onto mark past := by
  simp [beginning, onto, Nat.add_right_comm]

theorem onto_reset (context : Context) :
    Alike mark past l (l.reset context) ((l.onto mark past).reset context) := by
  rw [reset_eq, reset_eq, onto_beginning]
  exact (onto_loadOffline mark past (l.beginning context)).announce

theorem onto_requestPage :
    Alike mark past l l.requestPage.1 (l.onto mark past).requestPage.1 := by
  cases hidle : l.fetch.isIdle with
  | false =>
    rw [l.requestPage_of_busy hidle, (l.onto mark past).requestPage_of_busy hidle]
    exact .refl l
  | true =>
    have hticket : (l.onto mark past).nextTicket = l.nextTicket.later mark := rfl
    rw [l.requestPage_of_idle hidle, (l.onto mark past).requestPage_of_idle hidle, hticket]
    exact ⟨_, rfl, by simp [onto, Past.reporting, Request.later]⟩

theorem onto_mark (change : FlagChange) (id : StoryId) :
    Alike mark past l (l.mark change id).1 ((l.onto mark past).mark change id).1 := by
  cases hfind : l.collection.find? id with
  | none =>
    rw [l.mark_of_unknown change hfind, (l.onto mark past).mark_of_unknown change hfind]
    exact .refl l
  | some story =>
    by_cases hset : change.get story = change.target
    · rw [l.mark_of_set hfind hset, (l.onto mark past).mark_of_set hfind hset]
      exact .refl l
    · rw [l.mark_of_unset hfind hset, (l.onto mark past).mark_of_unset hfind hset]
      exact ⟨_, rfl, by simp [marked, onto, Past.reporting, Request.later, PendingChange.later,
        Nat.add_right_comm]⟩

theorem onto_markAllRead :
    Alike mark past l l.markAllRead.1 (l.onto mark past).markAllRead.1 := by
  rw [l.markAllRead_eq, (l.onto mark past).markAllRead_eq]
  exact ⟨_, rfl, by simp [onto, Past.reporting, Request.later, PendingChange.later,
    Nat.add_right_comm]⟩

/-! ### Completions of new requests -/

variable {past l}

theorem mem_onto_pendingPages (h : past.IsBefore mark) {ticket : Ticket}
    (hticket : 0 < ticket.generation) :
    ticket.later mark ∈ (l.onto mark past).pendingPages ↔ ticket ∈ l.pendingPages := by
  have hpast : ticket.later mark ∉ past.pages := h.later_not_mem hticket
  simp [onto, hpast, List.mem_map_of_injective Ticket.later_injective]

theorem onto_withoutPage (h : past.IsBefore mark) {ticket : Ticket}
    (hticket : 0 < ticket.generation) :
    (l.onto mark past).withoutPage (ticket.later mark) = (l.withoutPage ticket).onto mark past := by
  have hpast : ticket.later mark ∉ past.pages := h.later_not_mem hticket
  simp [withoutPage, onto, List.erase_append_right _ hpast,
    List.map_erase Ticket.later_injective]

theorem onto_expects (ticket : Ticket) :
    (l.onto mark past).expects (ticket.later mark) = l.expects ticket := by
  simp [expects, onto, Ticket.later]

theorem onto_currentChanges (h : past.IsBefore mark) (hl : 0 < l.generation) :
    (l.onto mark past).currentChanges = l.currentChanges.map (PendingChange.later mark) := by
  -- Changes of the past belong to generations up to that of the milestone.
  have hpast :
      past.changes.filter (fun p => p.generation = l.generation + mark.generation) = [] := by
    refine List.filter_eq_nil_iff.mpr fun pending hmem => ?_
    have hle := h.generation pending hmem
    simp only [decide_eq_true_eq]
    omega
  change (past.changes ++ l.pendingChanges.map (PendingChange.later mark)).filter
    (fun p => p.generation = l.generation + mark.generation) = _
  rw [List.filter_append, hpast, List.nil_append, List.filter_map]
  simp [currentChanges, Function.comp_def, PendingChange.later]

theorem onto_merged (h : past.IsBefore mark) (hl : 0 < l.generation) (page : Nat)
    (stories : List Story) : (l.onto mark past).merged page stories = l.merged page stories := by
  rw [merged, onto_currentChanges mark h hl, List.foldl_map]
  rfl

theorem onto_mergePage (h : past.IsBefore mark) (hl : 0 < l.generation) (page : Nat)
    (stories : List Story) :
    Alike mark past l (l.mergePage page stories).1
      ((l.onto mark past).mergePage page stories).1 := by
  rw [l.mergePage_eq, (l.onto mark past).mergePage_eq, onto_merged mark h hl]
  simp only [List.append_assoc]
  exact ⟨_, rfl, rfl⟩

theorem onto_failPage (page : Nat) (cause : FetchError) :
    Alike mark past l (l.failPage page cause).1 ((l.onto mark past).failPage page cause).1 := by
  have hfailed : Alike mark past l (l.afterFailure page cause)
      ((l.onto mark past).afterFailure page cause) := by
    unfold afterFailure
    split
    · exact onto_loadOffline mark past { l with fetch := l.fetch.fail.setOnline false }
    · exact .refl { l with fetch := l.fetch.fail }
  have hreported := hfailed.announce.emit (.error (.pageFailed page cause))
  rw [l.failPage_eq, (l.onto mark past).failPage_eq]
  simpa [announce, Loader.emit] using hreported

/-- A page of the new stream. -/
theorem onto_complete_page (h : past.IsBefore mark) (hl : 0 < l.generation) (ticket : Ticket)
    (hticket : 0 < ticket.generation) (result : Except FetchError (List Story)) :
    Alike mark past l (l.complete (.page ticket result)).1
      ((l.onto mark past).complete (.page (ticket.later mark) result)).1 := by
  have hmem := mem_onto_pendingPages mark (l := l) h hticket
  have hexp : (l.onto mark past).expects (ticket.later mark) = l.expects ticket :=
    onto_expects mark ticket
  have hwithout := onto_withoutPage mark (l := l) h hticket
  rcases l.complete_page_cases ticket result with
    ⟨hknown, heq⟩ | ⟨hknown, hstale, heq⟩ | ⟨stories, rfl, hknown, hcurrent, heq⟩ |
      ⟨cause, rfl, hknown, hcurrent, heq⟩ <;> rw [heq]
  · rw [complete_page_of_unknown _ (mt hmem.mp hknown)]
    exact .refl l
  · rw [complete_page_of_stale _ (hmem.mpr hknown) (hexp.trans hstale), hwithout]
    exact .refl (l.withoutPage ticket)
  · rw [complete_page_of_ok _ (hmem.mpr hknown) (hexp.trans hcurrent), hwithout]
    exact onto_mergePage mark (l := l.withoutPage ticket) h hl ticket.page stories
  · rw [complete_page_of_error _ (hmem.mpr hknown) (hexp.trans hcurrent), hwithout]
    exact onto_failPage mark (l := l.withoutPage ticket) ticket.page cause

theorem onto_pendingChange? (h : past.IsBefore mark) (number : Nat) :
    (l.onto mark past).pendingChange? (number + mark.number) =
      (l.pendingChange? number).map (PendingChange.later mark) := by
  have hpast : past.changes.find? (fun p => p.number = number + mark.number) = none := by
    refine List.find?_eq_none.mpr fun pending hmem => ?_
    have hlt := h.number pending hmem
    simp only [decide_eq_true_eq]
    omega
  have hlater : (fun p : PendingChange => decide (p.number = number + mark.number)) ∘
      PendingChange.later mark = fun p => decide (p.number = number) := by
    funext p
    simp [PendingChange.later]
  rw [pendingChange?, onto, List.find?_append, hpast, Option.none_or, List.find?_map, hlater]
  rfl

theorem onto_withoutChange (h : past.IsBefore mark) (number : Nat) :
    (l.onto mark past).withoutChange (number + mark.number) =
      (l.withoutChange number).onto mark past := by
  have hpast : past.changes.filter (fun p => p.number ≠ number + mark.number) = past.changes := by
    refine List.filter_eq_self.mpr fun pending hmem => ?_
    have hlt := h.number pending hmem
    simp only [decide_eq_true_eq]
    omega
  simp only [withoutChange, onto, List.filter_append, hpast, List.filter_map]
  simp [Function.comp_def, PendingChange.later]

theorem onto_takeBack (pending : PendingChange) :
    Alike mark past l (l.takeBack pending)
      ((l.onto mark past).takeBack (pending.later mark)) := by
  rw [l.takeBack_eq, (l.onto mark past).takeBack_eq]
  exact ⟨_, rfl, rfl⟩

/-- The answer to a flag change of the new stream. -/
theorem onto_complete_flag (h : past.IsBefore mark) (number : Nat)
    (result : Except FetchError Unit) :
    Alike mark past l (l.complete (.flag number result)).1
      ((l.onto mark past).complete (.flag (number + mark.number) result)).1 := by
  have hfind := onto_pendingChange? mark (l := l) h number
  have hwithout := onto_withoutChange mark (l := l) h number
  cases hpending : l.pendingChange? number with
  | none =>
    rw [hpending, Option.map_none] at hfind
    rw [l.complete_flag_of_unknown hpending, complete_flag_of_unknown _ hfind]
    exact .refl l
  | some pending =>
    rw [hpending, Option.map_some] at hfind
    have hcurrent : (pending.later mark).generation = (l.onto mark past).generation ↔
        pending.generation = l.generation := Nat.add_right_cancel_iff
    cases result with
    | ok _ =>
      rw [l.complete_flag_of_ok hpending, complete_flag_of_ok _ hfind, hwithout]
      simp only [hcurrent]
      split
      · exact .refl ((l.withoutChange number).confirm pending)
      · exact .refl (l.withoutChange number)
    | error cause =>
      have herror : changeError (pending.later mark) cause = changeError pending cause := rfl
      rw [l.complete_flag_of_error hpending, complete_flag_of_error _ hfind, hwithout, herror]
      simp only [hcurrent]
      split
      · exact (onto_takeBack mark (l := l.withoutChange number) pending).emit _
      · exact (Alike.refl (l.withoutChange number)).emit _

/-! ### Completions of old requests -/

/-- The reports of a flag change that has come to its end when its stream was gone: only that it
failed, if it did. -/
def lateReports (l : Loader) (number : Nat) : Except FetchError Unit → List Event
  | .ok _ => []
  | .error cause =>
    (l.pendingChange? number).toList.map fun pending => .error (changeError pending cause)

theorem complete_page_of_old {ticket : Ticket} (h : ticket.generation ≠ l.generation)
    (result : Except FetchError (List Story)) :
    l.complete (.page ticket result) =
      (l.withoutPage ticket,
        if ticket ∈ l.pendingPages then .page ticket (.ok .discarded) else .ignored) := by
  by_cases hmem : ticket ∈ l.pendingPages
  · have hexp : l.expects ticket = false := by simp [expects, h]
    rw [l.complete_page_of_stale hmem hexp, if_pos hmem]
  · rw [l.complete_page_of_unknown hmem, if_neg hmem, withoutPage, List.erase_of_not_mem hmem]

theorem complete_flag_of_old {number : Nat}
    (h : ∀ pending, l.pendingChange? number = some pending → pending.generation ≠ l.generation)
    (result : Except FetchError Unit) :
    (l.complete (.flag number result)).1 =
      { l.withoutChange number with events := l.events ++ l.lateReports number result } := by
  cases hfind : l.pendingChange? number with
  | none =>
    have hkept : l.pendingChanges.filter (fun p => p.number ≠ number) = l.pendingChanges := by
      refine List.filter_eq_self.mpr fun pending hmem => ?_
      simpa using List.find?_eq_none.mp hfind pending hmem
    rw [l.complete_flag_of_unknown hfind, withoutChange, hkept]
    cases result <;> simp [lateReports, hfind]
  | some pending =>
    have hold := h pending hfind
    cases result with
    | ok _ =>
      rw [l.complete_flag_of_ok hfind, if_neg hold]
      simp [lateReports, withoutChange]
    | error cause =>
      rw [l.complete_flag_of_error hfind, if_neg hold]
      simp [lateReports, hfind, withoutChange, Loader.emit]

theorem onto_withoutPage_old (hpages : ∀ t ∈ l.pendingPages, 0 < t.generation) {ticket : Ticket}
    (hticket : ticket.generation ≤ mark.generation) :
    (l.onto mark past).withoutPage ticket =
      l.onto mark { past with pages := past.pages.erase ticket } := by
  have hnew : ticket ∉ l.pendingPages.map (Ticket.later mark) := fun hmem => by
    obtain ⟨t, ht, rfl⟩ := List.mem_map.mp hmem
    have hpos := hpages t ht
    simp only [Ticket.later] at hticket
    omega
  by_cases hmem : ticket ∈ past.pages
  · simp [withoutPage, onto, List.erase_append_left _ hmem]
  · simp [withoutPage, onto, List.erase_append_right _ hmem, List.erase_of_not_mem hmem,
      List.erase_of_not_mem hnew]

theorem onto_withoutChange_old {number : Nat} (hnumber : number < mark.number) :
    (l.onto mark past).withoutChange number =
      l.onto mark { past with changes := past.changes.filter fun p => p.number ≠ number } := by
  have hnew : (l.pendingChanges.map (PendingChange.later mark)).filter
      (fun p => p.number ≠ number) = l.pendingChanges.map (PendingChange.later mark) := by
    refine List.filter_eq_self.mpr fun pending hmem => ?_
    obtain ⟨p, -, rfl⟩ := List.mem_map.mp hmem
    have hle : mark.number ≤ (p.later mark).number := Nat.le_add_left _ _
    exact decide_eq_true (by omega)
  simp only [withoutChange, onto, List.filter_append, hnew]

/-- A flag change that was made before the milestone belongs to a stream that is gone. -/
theorem onto_pendingChange?_old (h : past.IsBefore mark) (hl : 0 < l.generation) {number : Nat}
    (hnumber : number < mark.number) {pending : PendingChange}
    (hfind : (l.onto mark past).pendingChange? number = some pending) :
    pending.generation ≠ (l.onto mark past).generation := by
  have hpending : pending.number = number := by simpa using List.find?_some hfind
  have hgen : pending.generation ≤ mark.generation := by
    rcases List.mem_append.mp (List.mem_of_find?_eq_some hfind) with hold | hnew
    · exact h.generation pending hold
    · obtain ⟨p, -, rfl⟩ := List.mem_map.mp hnew
      simp only [PendingChange.later] at hpending
      omega
  change pending.generation ≠ l.generation + mark.generation
  omega

/-! ### Steps -/

/-- A loader that asked for nothing before it was reset. -/
structure Begun (l : Loader) : Prop where
  ledger : Ledger l
  generation : 0 < l.generation
  issued : ∀ ticket ∈ l.issuedTickets, 0 < ticket.generation

namespace Begun

theorem page (h : Begun l) : ∀ ticket ∈ l.pendingPages, 0 < ticket.generation :=
  fun ticket hmem => h.issued ticket (mem_issuedTickets.mpr (h.ledger.issued_page ticket hmem))

theorem step (h : Begun l) (act : Act) : Begun (l.step act) := by
  refine ⟨h.ledger.step act, ?_, fun ticket hmem => ?_⟩
  · rw [step_generation]
    exact Nat.lt_of_lt_of_le h.generation (Nat.le_add_right _ _)
  · rcases l.step_issuedTickets act with hissued | hissued <;> rw [hissued] at hmem
    · exact h.issued ticket hmem
    · rcases List.mem_append.mp hmem with hold | hnew
      · exact h.issued ticket hold
      · rw [List.mem_singleton.mp hnew]
        exact h.generation

theorem reset (context : Context) (cache : Cache) (pageSize : Nat) :
    Begun ((Loader.new context cache pageSize).reset context) := by
  refine ⟨(Ledger.new context cache pageSize).step (.reset context), ?_, ?_⟩
  · change 0 < ((Loader.new context cache pageSize).step (.reset context)).generation
    rw [step_generation]
    exact Nat.succ_pos 0
  · rw [reset_eq, loadOffline_eq]
    exact fun ticket hmem => absurd hmem List.not_mem_nil

end Begun

/-- An act of the new stream. -/
theorem step_onto (h : past.IsBefore mark) (hl : 0 < l.generation) {act act' : Act}
    (hsince : act.since mark = some act') :
    Alike mark past l (l.step act') ((l.onto mark past).step act) := by
  cases act with
  | complete completion =>
    cases completion with
    | page ticket result =>
      by_cases hold : ticket.generation ≤ mark.generation
      · simp [Act.since, Completion.since, hold] at hsince
      · -- The completion is that of a page which the fresh loader asked for in its own time.
        have hnew : mark.generation < ticket.generation := Nat.lt_of_not_le hold
        simp only [Act.since, Completion.since, hold, if_false, Option.map_some,
          Option.some.injEq] at hsince
        subst hsince
        have hpage := onto_complete_page mark (l := l) h hl
          { ticket with generation := ticket.generation - mark.generation }
          (Nat.sub_pos_of_lt hnew) result
        rw [Ticket.later_since hnew] at hpage
        exact hpage
    | flag number result =>
      by_cases hold : number < mark.number
      · simp [Act.since, Completion.since, hold] at hsince
      · have hnew : mark.number ≤ number := Nat.le_of_not_lt hold
        simp only [Act.since, Completion.since, hold, if_false, Option.map_some,
          Option.some.injEq] at hsince
        subst hsince
        have hflag := onto_complete_flag mark (l := l) h (number - mark.number) result
        rw [Nat.sub_add_cancel hnew] at hflag
        exact hflag
  | reset context =>
    obtain rfl := Option.some.inj hsince
    exact onto_reset mark past l context
  | loadOffline =>
    obtain rfl := Option.some.inj hsince
    exact onto_loadOffline mark past l
  | changeLevel level =>
    obtain rfl := Option.some.inj hsince
    exact ⟨[.level level], rfl, rfl⟩
  | requestPage =>
    obtain rfl := Option.some.inj hsince
    exact onto_requestPage mark past l
  | mark change id =>
    obtain rfl := Option.some.inj hsince
    exact onto_mark mark past l change id
  | markAllRead =>
    obtain rfl := Option.some.inj hsince
    exact onto_markAllRead mark past l
  | useCache cache =>
    obtain rfl := Option.some.inj hsince
    exact .refl { l with cache }

/-- The completion of an old request. -/
theorem step_onto_old (h : past.IsBefore mark) (hl : Begun l) {act : Act}
    (hsince : act.since mark = none) :
    ∃ past', past'.IsBefore mark ∧ past'.requests = past.requests ∧
      (l.onto mark past).step act = l.onto mark past' := by
  cases act with
  | complete completion =>
    cases completion with
    | page ticket result =>
      by_cases hold : ticket.generation ≤ mark.generation
      · have hpos := hl.generation
        have hgen : ticket.generation ≠ (l.onto mark past).generation := by
          change ticket.generation ≠ l.generation + mark.generation
          omega
        refine ⟨{ past with pages := past.pages.erase ticket },
          ⟨fun t ht => h.page t (List.mem_of_mem_erase ht), h.number, h.generation⟩, rfl, ?_⟩
        rw [step, complete_page_of_old hgen, onto_withoutPage_old mark hl.page hold]
      · simp [Act.since, Completion.since, hold] at hsince
    | flag number result =>
      by_cases hold : number < mark.number
      · refine ⟨{ past with
            changes := past.changes.filter fun p => p.number ≠ number
            events := past.events ++ (l.onto mark past).lateReports number result },
          ⟨h.page, fun p hp => h.number p (List.mem_of_mem_filter hp),
            fun p hp => h.generation p (List.mem_of_mem_filter hp)⟩, rfl, ?_⟩
        rw [step, complete_flag_of_old fun _ => onto_pendingChange?_old mark h hl.generation hold,
          onto_withoutChange_old mark hold]
        rfl
      · simp [Act.since, Completion.since, hold] at hsince
  | _ => cases hsince

/-! ### Runs -/

/-- **A run on top of a past** is a run of the fresh loader on top of what has become of that
past. -/
theorem run_onto (h : past.IsBefore mark) (hl : Begun l) (acts : List Act) :
    ∃ past', past'.IsBefore mark ∧ past'.requests = past.requests ∧
      (l.onto mark past).run acts =
        (l.run (acts.filterMap (Act.since mark))).onto mark past' := by
  -- An old completion changes the past under the same loader, any other act the loader on top.
  induction acts generalizing l past with
  | nil => exact ⟨past, h, rfl, rfl⟩
  | cons act acts ih =>
    cases hsince : act.since mark with
    | none =>
      obtain ⟨past₁, hbefore, hrequests, hstep⟩ := step_onto_old mark h hl hsince
      obtain ⟨past₂, hbefore', hrequests', hrun⟩ := ih hbefore hl
      refine ⟨past₂, hbefore', hrequests'.trans hrequests, ?_⟩
      rw [run_cons, hstep, hrun, List.filterMap_cons_none hsince]
    | some act' =>
      obtain ⟨events, -, hstep⟩ := step_onto mark h hl.generation hsince
      obtain ⟨past', hbefore, hrequests, hrun⟩ := ih (h.reporting events) (hl.step act')
      refine ⟨past', hbefore, hrequests, ?_⟩
      rw [run_cons, hstep, hrun, List.filterMap_cons_some hsince, run_cons]

/-- A loader that is reset is a fresh one on top of what there was before. -/
theorem reset_eq_onto (h : Ledger l) (context : Context) :
    ∃ past : Past, past.IsBefore l.milestone ∧ past.requests = l.requests ∧
      l.reset context =
        ((Loader.new context l.cache l.pageSize).reset context).onto l.milestone past := by
  let past : Past := ⟨l.pendingPages, l.pendingChanges, l.requests, l.events⟩
  have hbeginning : l.beginning context =
      ((Loader.new context l.cache l.pageSize).beginning context).onto l.milestone past := by
    have hsize : max 1 l.pageSize = l.pageSize := Nat.max_eq_right h.pageSize_pos
    simp [beginning, onto, Loader.new, milestone, past, hsize, Nat.add_comm]
  obtain ⟨events, -, hreset⟩ := (onto_loadOffline l.milestone past
    ((Loader.new context l.cache l.pageSize).beginning context)).announce
  refine ⟨past.reporting events,
    ⟨fun _ => h.page_le, fun _ => h.number_lt, h.generation_le⟩, rfl, ?_⟩
  rw [reset_eq, hbeginning, hreset]
  rfl

/-- A completion of a request of the fresh loader, as it arrives after the milestone. -/
theorem since_of_answers_later (hl : Begun l) {completion : Completion} {request : Request}
    (hrequest : request ∈ l.requests) (h : completion.answers (request.later mark)) :
    ∃ completion', completion.since mark = some completion' ∧ completion'.answers request := by
  cases completion <;> cases request <;> simp only [Completion.answers, Request.later] at h
  · next ticket =>
    have hpos := hl.issued ticket (mem_issuedTickets.mpr hrequest)
    have hnew : ¬(ticket.later mark).generation ≤ mark.generation := by
      simp only [Ticket.later]
      omega
    subst h
    exact ⟨_, if_neg hnew, by simp [Completion.answers, Ticket.later]⟩
  · subst h
    simp [Completion.since, Completion.answers]

/-- **A new stream owes nothing to the past.** Whatever a loader has gone through and whatever
its cache is, after a reset it goes on as a fresh loader over the same cache does: for all that
happens later it shows the same and asks for the same. The completion of a request that was
issued before concerns the fresh loader not at all: a page is discarded, and of a flag change
there is at most the report that it failed. -/
theorem reset_isolates {l : Loader} (hl : Reachable l) (context : Context) (acts : List Act) :
    let mark := l.milestone
    let here := (l.reset context).run acts
    let fresh := ((Loader.new context l.cache l.pageSize).reset context).run
      (acts.filterMap (Act.since mark))
    (here.context = fresh.context ∧ here.fetch = fresh.fetch ∧
        here.collection = fresh.collection ∧ here.cache = fresh.cache) ∧
      here.requests = l.requests ++ fresh.requests.map (Request.later mark) ∧
      (∀ act act' : Act, act.since mark = some act' → ∃ events,
        (fresh.step act').events = fresh.events ++ events ∧
          (here.step act).events = here.events ++ events) ∧
      (∀ completion : Completion, ∀ request ∈ fresh.requests,
        completion.answers (request.later mark) →
          ∃ completion', completion.since mark = some completion' ∧ completion'.answers request) ∧
      (∀ completion : Completion, ∀ request ∈ l.requests, completion.answers request →
        completion.since mark = none) ∧
      (∀ ticket, .page ticket ∈ l.requests → ∀ result,
        here.complete (.page ticket result) =
          (here.withoutPage ticket,
            if ticket ∈ here.pendingPages then .page ticket (.ok .discarded) else .ignored)) ∧
      ∀ number call, .flag number call ∈ l.requests → ∀ result,
        (here.complete (.flag number result)).1 =
          { here.withoutChange number with
            events := here.events ++ here.lateReports number result } := by
  intro mark here fresh
  have hbegun : Begun fresh :=
    run_induction (fun _ act h => h.step act) (.reset context l.cache l.pageSize) _
  obtain ⟨past₀, hbefore₀, hrequests₀, hreset⟩ := reset_eq_onto hl.ledger context
  obtain ⟨past, hbefore, hrequests, hrun⟩ :=
    run_onto mark hbefore₀ (.reset context l.cache l.pageSize) acts
  have hhere : here = fresh.onto mark past := by
    change (l.reset context).run acts = _
    rw [hreset]
    exact hrun
  refine ⟨?_, ?_, ?_, fun _ _ => since_of_answers_later mark hbegun, ?_, ?_, ?_⟩
  · rw [hhere]
    exact ⟨rfl, rfl, rfl, rfl⟩
  · rw [hhere, ← hrequests₀, ← hrequests]
    rfl
  · intro act act' hsince
    obtain ⟨events, hevents, hstep⟩ := step_onto mark hbefore hbegun.generation hsince
    exact ⟨events, hevents, by rw [hhere, hstep]; rfl⟩
  · exact fun _ request hrequest hanswers =>
      Completion.since_of_isBefore hanswers (hl.ledger.isBefore request hrequest)
  · intro ticket hticket result
    have hgen : ticket.generation ≤ mark.generation :=
      Request.isBefore_page.mp (hl.ledger.isBefore _ hticket)
    refine complete_page_of_old ?_ result
    rw [hhere]
    change ticket.generation ≠ fresh.generation + mark.generation
    have hpos := hbegun.generation
    omega
  · intro number call hcall result
    have hnumber : number < mark.number :=
      Request.isBefore_flag.mp (hl.ledger.isBefore _ hcall)
    refine complete_flag_of_old (fun pending hfind => ?_) result
    rw [hhere] at hfind ⊢
    exact onto_pendingChange?_old mark hbefore hbegun.generation hnumber hfind

/-- A loader that waits for a page and for the answer to a flag change. -/
def waiting : Loader :=
  (Loader.new { source := .feed 1 } {} 1).run
    [.reset { source := .feed 1 }, .requestPage,
      .complete (.page ⟨1, { source := .feed 1 }, 1⟩
        (.ok [{ id := ⟨"1:a"⟩, feedId := 1, title := "" }])),
      .mark .markRead ⟨"1:a"⟩, .requestPage]

/-- Both old requests of this loader are completed while the new stream is being fetched. -/
theorem reset_isolates_waiting :
    Reachable waiting ∧ waiting.pendingPages ≠ [] ∧ waiting.pendingChanges ≠ [] ∧
      ((waiting.reset { source := .feed 2 }).run
          [.requestPage, .complete (.flag 0 (.error .timeout)),
            .complete (.page ⟨1, { source := .feed 1 }, 2⟩
              (.ok [{ id := ⟨"1:a"⟩, feedId := 1, title := "" }])),
            .complete (.page ⟨2, { source := .feed 2 }, 1⟩
              (.ok [{ id := ⟨"2:b"⟩, feedId := 2, title := "" }]))]).collection =
        (((Loader.new { source := .feed 2 } waiting.cache waiting.pageSize).reset
          { source := .feed 2 }).run
          [.requestPage, .complete (.page ⟨1, { source := .feed 2 }, 1⟩
              (.ok [{ id := ⟨"2:b"⟩, feedId := 2, title := "" }]))]).collection := by
  have hreachable : Reachable waiting := (Reachable.new _ _ _).run _
  exact ⟨hreachable, by decide, by decide,
    (reset_isolates hreachable { source := .feed 2 } _).1.2.2.1⟩

end Loader

end FeedReader
