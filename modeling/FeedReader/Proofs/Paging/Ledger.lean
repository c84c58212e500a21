import FeedReader.Proofs.Paging.Effects
import Mathlib.Data.List.Nodup

/-!
# What is pending is on record

A loader keeps a record of the requests that it has issued, and the requests that it waits
for are among them. Requests carry the generation in which they were issued, or a number,
and both only grow. So a *milestone*, the generation and the next number at some moment,
divides the requests: **those before it were issued before that moment, and all others
after it.**
-/

namespace FeedReader

/-- A moment in the life of a loader: the generation, and the number of the next flag change. -/
structure Milestone where
  generation : Nat
  number : Nat

namespace Request

/-- Whether a request belongs to the time up to a milestone. -/
def isBefore (mark : Milestone) : Request → Bool
  | page ticket => ticket.generation ≤ mark.generation
  | flag number _ => number < mark.number

theorem isBefore_page {mark : Milestone} {ticket : Ticket} :
    (page ticket).isBefore mark = true ↔ ticket.generation ≤ mark.generation :=
  decide_eq_true_iff

theorem isBefore_flag {mark : Milestone} {number : Nat} {call : Call} :
    (flag number call).isBefore mark = true ↔ number < mark.number :=
  decide_eq_true_iff

theorem isBefore_mono {mark mark' : Milestone} {request : Request}
    (h : request.isBefore mark = true) (hgen : mark.generation ≤ mark'.generation)
    (hnumber : mark.number ≤ mark'.number) : request.isBefore mark' = true := by
  cases request with
  | page ticket => exact isBefore_page.mpr (Nat.le_trans (isBefore_page.mp h) hgen)
  | flag number call => exact isBefore_flag.mpr (Nat.lt_of_lt_of_le (isBefore_flag.mp h) hnumber)

end Request

namespace Loader

/-- Where a loader stands now. -/
def milestone (l : Loader) : Milestone := ⟨l.generation, l.nextNumber⟩

/-- **The record accounts for what is pending**, and nothing on it lies in the future. -/
structure Ledger (l : Loader) : Prop where
  pageSize_pos : 0 < l.pageSize
  issued_page : ∀ ticket ∈ l.pendingPages, .page ticket ∈ l.requests
  issued_change : ∀ pending ∈ l.pendingChanges, ∃ call, .flag pending.number call ∈ l.requests
  isBefore : ∀ request ∈ l.requests, request.isBefore l.milestone = true
  generation_le : ∀ pending ∈ l.pendingChanges, pending.generation ≤ l.generation
  sorted : l.pendingChanges.Pairwise fun p q => p.number < q.number

namespace Ledger

variable {l l' : Loader}

theorem page_le (h : Ledger l) {ticket : Ticket} (hmem : ticket ∈ l.pendingPages) :
    ticket.generation ≤ l.generation :=
  Request.isBefore_page.mp (h.isBefore _ (h.issued_page ticket hmem))

theorem number_lt (h : Ledger l) {pending : PendingChange} (hmem : pending ∈ l.pendingChanges) :
    pending.number < l.nextNumber := by
  obtain ⟨call, hcall⟩ := h.issued_change pending hmem
  exact Request.isBefore_flag.mp (h.isBefore _ hcall)

/-- A pending change is known by its number. -/
theorem eq_of_number (h : Ledger l) {p q : PendingChange} (hp : p ∈ l.pendingChanges)
    (hq : q ∈ l.pendingChanges) (hnumber : p.number = q.number) : p = q := by
  have hnodup : (l.pendingChanges.map PendingChange.number).Nodup :=
    List.pairwise_map.mpr (h.sorted.imp Nat.ne_of_lt)
  exact List.inj_on_of_nodup_map hnodup hp hq hnumber

/-- An answer leaves changes alone that it does not answer. -/
theorem filter_number_ne (h : Ledger l) {changes : List PendingChange} {pending : PendingChange}
    (hchanges : ∀ p ∈ changes, p ∈ l.pendingChanges) (hmem : pending ∈ l.pendingChanges)
    (hnot : pending ∉ changes) :
    changes.filter (fun p => p.number ≠ pending.number) = changes := by
  refine List.filter_eq_self.mpr fun p hp => decide_eq_true fun heq => hnot ?_
  rwa [← h.eq_of_number (hchanges p hp) hmem heq]

theorem pendingChange?_of_mem (h : Ledger l) {pending : PendingChange}
    (hmem : pending ∈ l.pendingChanges) : l.pendingChange? pending.number = some pending := by
  cases hfind : l.pendingChange? pending.number with
  | none => exact absurd (decide_eq_true rfl) (List.find?_eq_none.mp hfind pending hmem)
  | some p =>
    have hnumber : p.number = pending.number := by simpa using List.find?_some hfind
    rw [h.eq_of_number (List.mem_of_find?_eq_some hfind) hmem hnumber]

/-- Waiting for less, at the same moment or later. -/
theorem of_subset (h : Ledger l) (hsize : l'.pageSize = l.pageSize)
    (hpages : l'.pendingPages.Sublist l.pendingPages)
    (hchanges : l'.pendingChanges.Sublist l.pendingChanges)
    (hrequests : l'.requests = l.requests) (hnumber : l'.nextNumber = l.nextNumber)
    (hgen : l.generation ≤ l'.generation) : Ledger l' where
  pageSize_pos := hsize ▸ h.pageSize_pos
  issued_page ticket hmem := hrequests ▸ h.issued_page ticket (hpages.subset hmem)
  issued_change pending hmem := hrequests ▸ h.issued_change pending (hchanges.subset hmem)
  isBefore request hmem :=
    Request.isBefore_mono (h.isBefore request (hrequests ▸ hmem)) hgen (Nat.le_of_eq hnumber.symm)
  generation_le pending hmem :=
    Nat.le_trans (h.generation_le pending (hchanges.subset hmem)) hgen
  sorted := h.sorted.sublist hchanges

/-- One more flag change. -/
theorem of_change (h : Ledger l) (hsize : l'.pageSize = l.pageSize)
    (hpages : l'.pendingPages = l.pendingPages) (hgen : l'.generation = l.generation)
    (hnumber : l'.nextNumber = l.nextNumber + 1) {change : FlagChange}
    {targets : List (StoryId × Bool)} {call : Call}
    (hchanges : l'.pendingChanges =
      l.pendingChanges ++ [⟨l.nextNumber, l.generation, change, targets⟩])
    (hrequests : l'.requests = l.requests ++ [.flag l.nextNumber call]) : Ledger l' where
  pageSize_pos := hsize ▸ h.pageSize_pos
  issued_page ticket hmem := by
    rw [hrequests]
    exact List.mem_append_left _ (h.issued_page ticket (hpages ▸ hmem))
  issued_change pending hmem := by
    rw [hrequests]
    rw [hchanges] at hmem
    rcases List.mem_append.mp hmem with hold | hnew
    · obtain ⟨call', hcall⟩ := h.issued_change pending hold
      exact ⟨call', List.mem_append_left _ hcall⟩
    · rw [List.mem_singleton.mp hnew]
      exact ⟨call, List.mem_append_right _ (List.mem_singleton.mpr rfl)⟩
  isBefore request hmem := by
    have hlt : l.nextNumber < l'.nextNumber := by omega
    rw [hrequests] at hmem
    rcases List.mem_append.mp hmem with hold | hnew
    · exact Request.isBefore_mono (h.isBefore request hold) (Nat.le_of_eq hgen.symm)
        (Nat.le_of_lt hlt)
    · rw [List.mem_singleton.mp hnew]
      exact Request.isBefore_flag.mpr hlt
  generation_le pending hmem := by
    rw [hchanges] at hmem
    rw [hgen]
    rcases List.mem_append.mp hmem with hold | hnew
    · exact h.generation_le pending hold
    · exact Nat.le_of_eq (congrArg PendingChange.generation (List.mem_singleton.mp hnew))
  sorted := by
    rw [hchanges, List.pairwise_append]
    refine ⟨h.sorted, List.pairwise_singleton _ _, fun p hp q hq => ?_⟩
    rw [List.mem_singleton.mp hq]
    exact h.number_lt hp

theorem new (context : Context) (cache : Cache) (pageSize : Nat) :
    Ledger (Loader.new context cache pageSize) where
  pageSize_pos := Nat.le_max_left 1 pageSize
  issued_page := by simp [Loader.new]
  issued_change := by simp [Loader.new]
  isBefore := by simp [Loader.new]
  generation_le := by simp [Loader.new]
  sorted := by simp [Loader.new]

theorem requestPage (h : Ledger l) : Ledger l.requestPage.1 := by
  cases hidle : l.fetch.isIdle with
  | false =>
    rw [l.requestPage_of_busy hidle]
    exact h
  | true =>
    rw [l.requestPage_of_idle hidle]
    refine ⟨h.pageSize_pos, fun ticket hmem => ?_, fun pending hmem => ?_, fun request hmem => ?_,
      h.generation_le, h.sorted⟩
    · rcases List.mem_append.mp hmem with hold | hnew
      · exact List.mem_append_left _ (h.issued_page ticket hold)
      · rw [List.mem_singleton.mp hnew]
        exact List.mem_append_right _ (List.mem_singleton.mpr rfl)
    · obtain ⟨call, hcall⟩ := h.issued_change pending hmem
      exact ⟨call, List.mem_append_left _ hcall⟩
    · rcases List.mem_append.mp hmem with hold | hnew
      · exact h.isBefore request hold
      · rw [List.mem_singleton.mp hnew]
        exact Request.isBefore_page.mpr (Nat.le_refl _)

theorem mark (h : Ledger l) (change : FlagChange) (id : StoryId) : Ledger (l.mark change id).1 := by
  cases hfind : l.collection.find? id with
  | none =>
    rw [l.mark_of_unknown change hfind]
    exact h
  | some story =>
    by_cases hset : change.get story = change.target
    · rw [l.mark_of_set hfind hset]
      exact h
    · rw [l.mark_of_unset hfind hset]
      exact h.of_change rfl rfl rfl rfl rfl rfl

theorem complete_page (h : Ledger l) (ticket : Ticket) (result : Except FetchError (List Story)) :
    Ledger (l.complete (.page ticket result)).1 := by
  have hrecord := l.sameRecord_complete_page ticket result
  refine h.of_subset hrecord.pageSize ?_ ?_ hrecord.requests hrecord.nextNumber
    (Nat.le_of_eq hrecord.generation.symm)
  · rw [pendingPages_complete_page]
    exact List.erase_sublist
  · rw [hrecord.pendingChanges]

theorem complete_flag (h : Ledger l) (number : Nat) (result : Except FetchError Unit) :
    Ledger (l.complete (.flag number result)).1 := by
  have hfilter : (l.withoutChange number).pendingChanges.Sublist l.pendingChanges :=
    List.filter_sublist
  cases hfind : l.pendingChange? number with
  | none =>
    rw [l.complete_flag_of_unknown hfind result]
    exact h
  | some pending =>
    cases result with
    | ok _ =>
      rw [l.complete_flag_of_ok hfind]
      split <;> exact h.of_subset rfl (.refl _) hfilter rfl rfl (Nat.le_refl _)
    | error cause =>
      rw [l.complete_flag_of_error hfind cause]
      split
      · rw [takeBack_eq]
        exact h.of_subset rfl (.refl _) hfilter rfl rfl (Nat.le_refl _)
      · exact h.of_subset rfl (.refl _) hfilter rfl rfl (Nat.le_refl _)

theorem step (h : Ledger l) (act : Act) : Ledger (l.step act) := by
  cases act with
  | reset context =>
    simp only [Loader.step, reset_eq, loadOffline_eq]
    exact h.of_subset rfl (.refl _) (.refl _) rfl rfl (Nat.le_succ _)
  | loadOffline =>
    simp only [Loader.step, loadOffline_eq]
    exact h.of_subset rfl (.refl _) (.refl _) rfl rfl (Nat.le_refl _)
  | changeLevel level => exact h.of_subset rfl (.refl _) (.refl _) rfl rfl (Nat.le_refl _)
  | requestPage => exact h.requestPage
  | mark change id => exact h.mark change id
  | markAllRead =>
    simp only [Loader.step, markAllRead_eq]
    exact h.of_change rfl rfl rfl rfl rfl rfl
  | useCache cache => exact h.of_subset rfl (.refl _) (.refl _) rfl rfl (Nat.le_refl _)
  | complete completion =>
    cases completion with
    | page ticket result => exact h.complete_page ticket result
    | flag number result => exact h.complete_flag number result

end Ledger

theorem Reachable.ledger {l : Loader} (h : Reachable l) : Ledger l := by
  induction h with
  | new context cache pageSize => exact .new context cache pageSize
  | step act _ ih => exact ih.step act

/-! ### What a step puts on record -/

theorem mem_issuedTickets {l : Loader} {ticket : Ticket} :
    ticket ∈ l.issuedTickets ↔ .page ticket ∈ l.requests := by
  rw [issuedTickets, List.mem_filterMap]
  constructor
  · rintro ⟨request, hrequest, hticket⟩
    cases request with
    | page t => exact Option.some.inj hticket ▸ hrequest
    | flag number call => cases hticket
  · intro hrequest
    exact ⟨.page ticket, hrequest, rfl⟩

/-- A step asks for one page at most, and only for the next one. -/
theorem step_issuedTickets (l : Loader) (act : Act) :
    (l.step act).issuedTickets = l.issuedTickets ∨
      (l.step act).issuedTickets = l.issuedTickets ++ [l.nextTicket] := by
  cases act with
  | reset context => exact .inl (by simp only [step, reset_eq, loadOffline_eq]; rfl)
  | loadOffline => exact .inl (by rw [step, loadOffline_eq]; rfl)
  | changeLevel level => exact .inl rfl
  | requestPage =>
    cases hidle : l.fetch.isIdle with
    | false => exact .inl (by rw [step, l.requestPage_of_busy hidle])
    | true =>
      refine .inr ?_
      rw [step, l.requestPage_of_idle hidle]
      simp [issuedTickets]
  | mark change id => exact .inl (l.samePlace_mark change id).issuedTickets
  | markAllRead => exact .inl l.samePlace_markAllRead.issuedTickets
  | useCache cache => exact .inl rfl
  | complete completion =>
    refine .inl ?_
    cases completion with
    | flag number result => exact (l.samePlace_complete_flag number result).issuedTickets
    | page ticket result =>
      simp only [step, issuedTickets, (l.sameRecord_complete_page ticket result).requests]

/-- A new generation begins with a reset and not otherwise. -/
theorem step_generation (l : Loader) (act : Act) :
    (l.step act).generation = l.generation + if act.isReset then 1 else 0 := by
  cases act with
  | reset context => simp only [step, reset_eq, loadOffline_eq]; rfl
  | loadOffline => rw [step, loadOffline_eq]; rfl
  | changeLevel level => rfl
  | requestPage =>
    cases hidle : l.fetch.isIdle with
    | false => rw [step, l.requestPage_of_busy hidle]; rfl
    | true => rw [step, l.requestPage_of_idle hidle]; rfl
  | mark change id => exact (l.samePlace_mark change id).generation
  | markAllRead => exact l.samePlace_markAllRead.generation
  | useCache cache => rfl
  | complete completion =>
    cases completion with
    | flag number result => exact (l.samePlace_complete_flag number result).generation
    | page ticket result => exact (l.sameRecord_complete_page ticket result).generation

end Loader

end FeedReader
