import FeedReader.Proofs.Paging.Ledger
import Mathlib.Data.List.Induction
import Mathlib.Data.List.Perm.Basic

/-!
# Pages come one at a time and in order

Of all the requests for pages that a loader waits for, only those of the current generation
matter: the others are dropped when they are completed. The invariant
`FeedReader.Loader.PagesInOrder` ties them to how far the stream has been fetched.

* A stream that is being fetched waits for **exactly one** page of its generation, and one
  that is not waits for none.
* That page is the **next** one, of the same stream.
* The pages merged in a generation are **1, 2, 3, …**, each once.

A stream ends for good: from the last page to the next reset no page is asked for
(`FeedReader.Loader.run_of_finished`).
-/

namespace FeedReader

namespace Loader

/-- The number of pages of a generation that the loader waits for. -/
def pendingOf (l : Loader) (generation : Nat) : Nat :=
  l.pendingPages.countP fun ticket => ticket.generation = generation

/-- **The page protocol**: what the requests for pages have to do with the state of the stream
and with the pages that were merged. -/
structure PagesInOrder (l : Loader) (merges : List Merge) : Prop where
  not_both : ¬(l.fetch.fetching = true ∧ l.fetch.finished = true)
  pendingOf_le : ∀ generation, l.pendingOf generation ≤ 1
  pendingOf_current : l.pendingOf l.generation = if l.fetch.fetching then 1 else 0
  next : ∀ ticket ∈ l.pendingPages, ticket.generation = l.generation →
    ticket.context.sameStream l.context = true ∧ ticket.page = l.fetch.page + 1
  merged_le : ∀ merge ∈ merges, merge.ticket.generation ≤ l.generation
  pages_merged : (inGeneration l.generation merges).map (fun merge => merge.ticket.page) =
    List.range' 1 l.fetch.page

/-! ### Merges of a step -/

theorem merge?_complete_page (l : Loader) (ticket : Ticket)
    (result : Except FetchError (List Story)) :
    merge? (l, .complete (.page ticket result)) =
      match result with
      | .ok stories =>
        if ticket ∈ l.pendingPages ∧ l.expects ticket = true then some ⟨ticket, stories⟩ else none
      | .error _ => none := by
  cases result with
  | error cause => rfl
  | ok stories =>
    rcases l.complete_page_cases ticket (.ok stories) with
      ⟨hmem, h⟩ | ⟨-, hexp, h⟩ | ⟨_, heq, hmem, hexp, h⟩ | ⟨_, heq, -⟩
    · simp [merge?, h, hmem]
    · simp [merge?, h, hexp]
    · obtain rfl := Except.ok.inj heq
      simp [merge?, h, hmem, hexp, mergePage_eq]
    · cases heq

/-- A ticket that is expected belongs to the current generation and its stream. -/
theorem expects_iff (l : Loader) (ticket : Ticket) :
    l.expects ticket = true ↔
      ticket.generation = l.generation ∧ ticket.context.sameStream l.context = true ∧
        l.fetch.fetching = true := by
  simp [expects, and_assoc]

/-! ### Waiting for one page less -/

theorem pendingOf_eq_add (l : Loader) {ticket : Ticket} (hmem : ticket ∈ l.pendingPages)
    (generation : Nat) :
    l.pendingOf generation =
      (l.withoutPage ticket).pendingOf generation +
        if ticket.generation = generation then 1 else 0 := by
  have hperm := (List.perm_cons_erase hmem).countP_eq fun t => t.generation = generation
  rw [List.countP_cons] at hperm
  simpa [pendingOf, withoutPage] using hperm

namespace PagesInOrder

variable {l l' : Loader} {merges : List Merge}

/-- The protocol does not look beyond the stream, how far it has been fetched and the requests
for pages. -/
theorem congr (h : PagesInOrder l merges) (hgen : l'.generation = l.generation)
    (hfetch : l'.fetch = l.fetch) (hpages : l'.pendingPages = l.pendingPages)
    (hsource : l'.context.source = l.context.source) : PagesInOrder l' merges where
  not_both := by rw [hfetch]; exact h.not_both
  pendingOf_le := by
    intro generation
    rw [pendingOf, hpages]
    exact h.pendingOf_le generation
  pendingOf_current := by
    rw [pendingOf, hpages, hgen, hfetch]
    exact h.pendingOf_current
  next := by
    rw [hpages, hgen, hfetch]
    simp only [Context.sameStream, hsource]
    exact h.next
  merged_le := by rw [hgen]; exact h.merged_le
  pages_merged := by rw [hgen, hfetch]; exact h.pages_merged

theorem of_samePlace (h : PagesInOrder l merges) (hplace : SamePlace l l') :
    PagesInOrder l' merges :=
  h.congr hplace.generation hplace.fetch hplace.pendingPages
    (congrArg Context.source hplace.context)

/-- A page that a generation waits for is the only one of it. -/
theorem pendingOf_withoutPage (h : PagesInOrder l merges) {ticket : Ticket}
    (hmem : ticket ∈ l.pendingPages) :
    (l.withoutPage ticket).pendingOf ticket.generation = 0 := by
  have hone := h.pendingOf_le ticket.generation
  rw [pendingOf_eq_add l hmem, if_pos rfl] at hone
  omega

/-- A request of the current generation is one that the loader expects. -/
theorem expects_of_current (h : PagesInOrder l merges) {ticket : Ticket}
    (hmem : ticket ∈ l.pendingPages) (hgen : ticket.generation = l.generation) :
    l.expects ticket = true := by
  refine (l.expects_iff ticket).mpr ⟨hgen, (h.next ticket hmem hgen).1, ?_⟩
  by_contra hfetching
  have hnone := h.pendingOf_current
  rw [if_neg hfetching, pendingOf_eq_add l hmem, if_pos hgen] at hnone
  omega

/-! ### Each step keeps the protocol -/

theorem new (context : Context) (cache : Cache) (pageSize : Nat) :
    PagesInOrder (Loader.new context cache pageSize) [] where
  not_both := by simp [Loader.new]
  pendingOf_le := by simp [Loader.new, pendingOf]
  pendingOf_current := by simp [Loader.new, pendingOf]
  next := by simp [Loader.new]
  merged_le := by simp
  pages_merged := by simp [Loader.new, inGeneration]

theorem reset (h : PagesInOrder l merges) (hledger : Ledger l) (context : Context) :
    PagesInOrder (l.reset context) merges := by
  -- No request and no merge belongs to the generation that begins.
  have hpending : (l.beginning context).pendingOf (l.generation + 1) = 0 := by
    refine List.countP_eq_zero.mpr fun ticket hticket => ?_
    have hle := hledger.page_le hticket
    simp only [decide_eq_true_eq]
    omega
  have hmerged : inGeneration (l.generation + 1) merges = [] := by
    refine List.filter_eq_nil_iff.mpr fun merge hmerge => ?_
    have hle := h.merged_le merge hmerge
    simp only [decide_eq_true_eq]
    omega
  have hbegun : PagesInOrder (l.beginning context) merges :=
    { not_both := by simp [beginning, FetchState.start]
      pendingOf_le := h.pendingOf_le
      pendingOf_current := hpending
      next := by
        intro ticket hticket hgen
        have hle : ticket.generation ≤ l.generation := hledger.page_le hticket
        have hgen' : ticket.generation = l.generation + 1 := hgen
        omega
      merged_le := fun merge hmerge => Nat.le_succ_of_le (h.merged_le merge hmerge)
      pages_merged := by
        change (inGeneration (l.generation + 1) merges).map _ = _
        rw [hmerged]
        rfl }
  rw [reset_eq, loadOffline_eq]
  exact hbegun.congr rfl rfl rfl rfl

theorem requestPage (h : PagesInOrder l merges) : PagesInOrder l.requestPage.1 merges := by
  cases hidle : l.fetch.isIdle with
  | false =>
    rw [l.requestPage_of_busy hidle]
    exact h
  | true =>
    rw [l.requestPage_of_idle hidle]
    simp only [FetchState.isIdle, Bool.and_eq_true, Bool.not_eq_true'] at hidle
    obtain ⟨hfetching, hfinished⟩ := hidle
    have hnone : l.pendingOf l.generation = 0 := by simp [h.pendingOf_current, hfetching]
    have hcount : ∀ generation,
        (l.pendingPages ++ [l.nextTicket]).countP (fun ticket => ticket.generation = generation) =
          l.pendingOf generation + if l.generation = generation then 1 else 0 := by
      intro generation
      simp [pendingOf, List.countP_cons, nextTicket]
    refine ⟨by simp [hfinished], ?_, ?_, ?_, h.merged_le, h.pages_merged⟩
    · intro generation
      have hle := h.pendingOf_le generation
      rw [pendingOf, hcount]
      by_cases hgen : l.generation = generation
      · subst hgen
        simp [hnone]
      · rw [if_neg hgen]
        exact hle
    · rw [pendingOf, hcount, hnone]
      simp
    · intro ticket hticket hgen
      rcases List.mem_append.mp hticket with hold | hnew
      · exact h.next ticket hold hgen
      · rw [List.mem_singleton.mp hnew]
        simp [nextTicket, Context.sameStream]

/-- A page that is not expected is forgotten. -/
theorem withoutPage_of_not_expects (h : PagesInOrder l merges) {ticket : Ticket}
    (hmem : ticket ∈ l.pendingPages) (hexp : l.expects ticket = false) :
    PagesInOrder (l.withoutPage ticket) merges := by
  have hold : ticket.generation ≠ l.generation := fun hgen => by
    rw [h.expects_of_current hmem hgen] at hexp
    cases hexp
  refine ⟨h.not_both, ?_, ?_,
    fun t ht => h.next t (List.mem_of_mem_erase ht), h.merged_le, h.pages_merged⟩
  · intro generation
    have hle := h.pendingOf_le generation
    rw [pendingOf_eq_add l hmem] at hle
    omega
  · have hcurrent := h.pendingOf_current
    rw [pendingOf_eq_add l hmem, if_neg hold] at hcurrent
    exact hcurrent

/-- The page that was expected is no longer waited for, and the stream is not fetched any more. -/
theorem of_expects (h : PagesInOrder l merges) {ticket : Ticket} (hmem : ticket ∈ l.pendingPages)
    (hexp : l.expects ticket = true) (hgen : l'.generation = l.generation)
    (hpages : l'.pendingPages = (l.withoutPage ticket).pendingPages)
    (hfetching : l'.fetch.fetching = false) {merges' : List Merge}
    (hle : ∀ merge ∈ merges', merge.ticket.generation ≤ l.generation)
    (hmerged : (inGeneration l.generation merges').map (fun merge => merge.ticket.page) =
      List.range' 1 l'.fetch.page) :
    PagesInOrder l' merges' := by
  obtain ⟨hticket, -, -⟩ := (l.expects_iff ticket).mp hexp
  have hnone : l'.pendingOf l'.generation = 0 := by
    rw [pendingOf, hpages, hgen, ← hticket]
    exact h.pendingOf_withoutPage hmem
  refine ⟨by simp [hfetching], ?_, by simp [hnone, hfetching], ?_, hgen ▸ hle,
    by rw [hgen]; exact hmerged⟩
  · intro generation
    have hone := h.pendingOf_le generation
    rw [pendingOf_eq_add l hmem] at hone
    rw [pendingOf, hpages]
    exact Nat.le_trans (Nat.le_add_right _ _) hone
  · intro t ht htgen
    refine absurd htgen ?_
    simpa using List.countP_eq_zero.mp hnone t ht

theorem complete_page (h : PagesInOrder l merges) (ticket : Ticket)
    (result : Except FetchError (List Story)) :
    PagesInOrder (l.complete (.page ticket result)).1
      (merges ++ (merge? (l, .complete (.page ticket result))).toList) := by
  rw [merge?_complete_page]
  rcases l.complete_page_cases ticket result with
    ⟨hmem, heq⟩ | ⟨hmem, hexp, heq⟩ | ⟨stories, rfl, hmem, hexp, heq⟩ |
      ⟨cause, rfl, hmem, hexp, heq⟩ <;> rw [heq]
  · cases result <;> simpa [hmem] using h
  · have hkept := h.withoutPage_of_not_expects hmem hexp
    cases result <;> simpa [hexp] using hkept
  · -- The page that arrives is the next one, so it continues the list of merged pages.
    obtain ⟨hgen, -, -⟩ := (l.expects_iff ticket).mp hexp
    have hnext : ticket.page = l.fetch.page + 1 := (h.next ticket hmem hgen).2
    simp only [hmem, hexp, and_self, if_true, Option.toList_some, mergePage_eq]
    refine h.of_expects hmem hexp ?_ ?_ ?_ ?_ ?_
    · rfl
    · rfl
    · rfl
    · intro merge hmerge
      rcases List.mem_append.mp hmerge with hold | hnew
      · exact h.merged_le merge hold
      · rw [List.mem_singleton.mp hnew]
        exact Nat.le_of_eq hgen
    · change _ = List.range' 1 (l.fetch.page + 1)
      rw [inGeneration_append, List.map_append, h.pages_merged, List.range'_1_concat]
      simp [inGeneration, hgen, hnext, Nat.add_comm]
  · simp only [Option.toList_none, List.append_nil, failPage_eq]
    unfold afterFailure
    split
    · rw [loadOffline_eq]
      refine h.of_expects hmem hexp ?_ ?_ ?_ h.merged_le h.pages_merged <;> rfl
    · refine h.of_expects hmem hexp ?_ ?_ ?_ h.merged_le h.pages_merged <;> rfl

theorem step (h : PagesInOrder l merges) (hledger : Ledger l) (act : Act) :
    PagesInOrder (l.step act) (merges ++ (merge? (l, act)).toList) := by
  cases act with
  | complete completion =>
    cases completion with
    | page ticket result => exact h.complete_page ticket result
    | flag number result =>
      have hplace := l.samePlace_complete_flag number result
      simpa [merge?, Loader.step] using h.of_samePlace hplace
  | reset context => simpa [merge?, Loader.step] using h.reset hledger context
  | requestPage => simpa [merge?, Loader.step] using h.requestPage
  | loadOffline =>
    simp only [merge?, Option.toList_none, List.append_nil, Loader.step, loadOffline_eq]
    exact h.congr rfl rfl rfl rfl
  | changeLevel level =>
    simp only [merge?, Option.toList_none, List.append_nil, Loader.step]
    exact h.congr rfl rfl rfl rfl
  | mark change id =>
    simpa [merge?, Loader.step] using h.of_samePlace (l.samePlace_mark change id)
  | markAllRead => simpa [merge?, Loader.step] using h.of_samePlace l.samePlace_markAllRead
  | useCache cache =>
    simp only [merge?, Option.toList_none, List.append_nil, Loader.step]
    exact h.congr rfl rfl rfl rfl

end PagesInOrder

/-- **The protocol holds in every run.** -/
theorem pagesInOrder_run (context : Context) (cache : Cache) (pageSize : Nat) (acts : List Act) :
    PagesInOrder ((Loader.new context cache pageSize).run acts)
      ((Loader.new context cache pageSize).merges acts) := by
  induction acts using List.reverseRecOn with
  | nil => exact .new context cache pageSize
  | append_singleton acts act ih =>
    rw [run_append, merges_concat]
    exact ih.step ((Reachable.new context cache pageSize).run acts).ledger act

/-! ### The end of a stream -/

/-- A stream that has ended asks for no page, whatever happens to it except a reset. -/
theorem step_of_finished {l : Loader} (hfinished : l.fetch.finished = true)
    (hfetching : l.fetch.fetching = false) {act : Act} (hact : act.isReset = false) :
    (l.step act).fetch = l.fetch ∧ (l.step act).issuedTickets = l.issuedTickets := by
  have hplace : ∀ {l'}, SamePlace l l' →
      l'.fetch = l.fetch ∧ l'.issuedTickets = l.issuedTickets :=
    fun h => ⟨h.fetch, h.issuedTickets⟩
  cases act with
  | reset context => cases hact
  | loadOffline => simp [step, loadOffline_eq, issuedTickets]
  | changeLevel level => exact ⟨rfl, rfl⟩
  | requestPage =>
    have hbusy : l.fetch.isIdle = false := by simp [FetchState.isIdle, hfinished]
    simp [step, l.requestPage_of_busy hbusy]
  | mark change id => exact hplace (l.samePlace_mark change id)
  | markAllRead => exact hplace l.samePlace_markAllRead
  | useCache cache => exact ⟨rfl, rfl⟩
  | complete completion =>
    cases completion with
    | flag number result => exact hplace (l.samePlace_complete_flag number result)
    | page ticket result =>
      have hexp : l.expects ticket = false := by simp [expects, hfetching]
      rcases l.complete_page_cases ticket result with
        ⟨-, h⟩ | ⟨-, -, h⟩ | ⟨_, -, -, hexp', -⟩ | ⟨_, -, -, hexp', -⟩
      · simp [step, h]
      · simp [step, h, withoutPage, issuedTickets]
      · simp [hexp] at hexp'
      · simp [hexp] at hexp'

theorem run_of_finished {l : Loader} (hfinished : l.fetch.finished = true)
    (hfetching : l.fetch.fetching = false) {acts : List Act}
    (hacts : ∀ act ∈ acts, act.isReset = false) :
    (l.run acts).fetch = l.fetch ∧ (l.run acts).issuedTickets = l.issuedTickets := by
  induction acts generalizing l with
  | nil => exact ⟨rfl, rfl⟩
  | cons act acts ih =>
    obtain ⟨hact, hrest⟩ := List.forall_mem_cons.mp hacts
    obtain ⟨hfetch, hissued⟩ := step_of_finished hfinished hfetching hact
    obtain ⟨hfetch', hissued'⟩ :=
      ih (hfetch ▸ hfinished) (hfetch ▸ hfetching) hrest
    exact ⟨hfetch'.trans hfetch, hissued'.trans hissued⟩

/-! ### The page protocol -/

/-- **Pages come one at a time and in order, in every run.** A stream is never fetched and
finished at once. It is fetched exactly when one pending page belongs to the generation, no
generation ever waits for two pages, and the page that is waited for is the next one of the
stream. The pages merged in the generation are the first ones in order, and a stream that has
ended asks for none until it is reset. -/
theorem page_protocol (context : Context) (cache : Cache) (pageSize : Nat) (acts : List Act) :
    let start := Loader.new context cache pageSize
    let l := start.run acts
    ¬(l.fetch.fetching = true ∧ l.fetch.finished = true) ∧
      (l.fetch.fetching = true ↔ l.pendingOf l.generation = 1) ∧
      (∀ generation, l.pendingOf generation ≤ 1) ∧
      (∀ ticket ∈ l.pendingPages, ticket.generation = l.generation →
        ticket.context.sameStream l.context = true ∧ ticket.page = l.fetch.page + 1) ∧
      (start.mergesOf acts l.generation).map (fun merge => merge.ticket.page) =
        List.range' 1 l.fetch.page ∧
      (l.fetch.finished = true → ∀ later : List Act, (∀ act ∈ later, act.isReset = false) →
        (l.run later).issuedTickets = l.issuedTickets ∧ (l.run later).requestPage.2 = none) := by
  intro start l
  have h : PagesInOrder l (start.merges acts) := pagesInOrder_run context cache pageSize acts
  refine ⟨h.not_both, ?_, h.pendingOf_le, h.next, h.pages_merged, ?_⟩
  · rw [h.pendingOf_current]
    cases l.fetch.fetching <;> simp
  · intro hfinished later hlater
    have hfetching : l.fetch.fetching = false := by
      cases hf : l.fetch.fetching with
      | false => rfl
      | true => exact absurd ⟨hf, hfinished⟩ h.not_both
    obtain ⟨hfetch, hissued⟩ := run_of_finished hfinished hfetching hlater
    have hbusy : (l.run later).fetch.isIdle = false := by
      simp [FetchState.isIdle, hfetch, hfinished]
    exact ⟨hissued, by rw [requestPage_of_busy _ hbusy]⟩

end Loader

end FeedReader
