import FeedReader.Proofs.Paging.Answers
import FeedReader.Proofs.Paging.PageOrder

/-!
# No request is lost

A request is *outstanding* from the moment when it is issued until a completion of it is applied.
Requests for pages and flag changes are kept in two different lists, and a reset does not touch
either. The books balance all the same (`FeedReader.Loader.Ledger.run_outstanding`): **what has
been issued is what has been answered and what is outstanding**, each as often.

What ties a completion to its request is an id, `FeedReader.RequestId`. A completion removes its id
from those that are outstanding and does nothing if it is not among them
(`FeedReader.Loader.Ledger.outstanding_complete`). A page that has failed is asked for again with
the same ticket, so an id may be issued several times; but no id is ever outstanding twice
(`FeedReader.Loader.Reachable.nodup_outstanding`), since a stream waits for one page at a time.

Waiting for all of them therefore ends, whatever the order in which completions arrive
(`FeedReader.Loader.Ledger.settle_of_perm`).
-/

namespace FeedReader

/-- What ties a completion to its request. -/
inductive RequestId
  | page (ticket : Ticket)
  | flag (number : Nat)
deriving DecidableEq, Repr

def Request.requestId : Request → RequestId
  | page ticket => .page ticket
  | flag number _ => .flag number

def Completion.requestId : Completion → RequestId
  | page ticket _ => .page ticket
  | flag number _ => .flag number

namespace Loader

/-! ### What is outstanding -/

/-- The requests that have not been completed. -/
def outstanding (l : Loader) : List RequestId :=
  l.pendingPages.map .page ++ l.pendingChanges.map fun pending => .flag pending.number

/-- The requests on record. -/
def issued (l : Loader) : List RequestId := l.requests.map Request.requestId

/-- The numbers of the flag changes on record. -/
def issuedNumbers (l : Loader) : List Nat :=
  l.requests.filterMap fun
    | .page _ => none
    | .flag number _ => some number

theorem length_outstanding (l : Loader) : l.outstanding.length = l.inFlight := by
  rw [outstanding, List.length_append, List.length_map, List.length_map, inFlight]

theorem page_mem_outstanding {l : Loader} {ticket : Ticket} :
    .page ticket ∈ l.outstanding ↔ ticket ∈ l.pendingPages := by
  simp [outstanding]

theorem flag_mem_outstanding {l : Loader} {number : Nat} :
    .flag number ∈ l.outstanding ↔ ∃ pending ∈ l.pendingChanges, pending.number = number := by
  simp [outstanding]

/-- Each request on record is one for a page or for a flag change. -/
theorem length_issued (l : Loader) :
    l.issued.length = l.issuedTickets.length + l.issuedNumbers.length := by
  rw [issued, List.length_map, issuedTickets, issuedNumbers]
  induction l.requests with
  | nil => rfl
  | cons request requests ih =>
    cases request with
    | page ticket =>
      simp only [List.filterMap_cons, List.length_cons]
      omega
    | flag number call =>
      simp only [List.filterMap_cons, List.length_cons]
      omega

/-! ### What a completion does -/

/-- **A completion of no outstanding request does nothing.** -/
theorem complete_of_not_outstanding {l : Loader} {completion : Completion}
    (h : completion.requestId ∉ l.outstanding) : l.complete completion = (l, .ignored) := by
  cases completion with
  | page ticket result => exact l.complete_page_of_unknown (mt page_mem_outstanding.mpr h) result
  | flag number result =>
    refine l.complete_flag_of_unknown (List.find?_eq_none.mpr fun pending hpending hnumber => ?_)
      result
    exact h (flag_mem_outstanding.mpr ⟨pending, hpending, of_decide_eq_true hnumber⟩)

theorem exists_pendingChange? {l : Loader} {number : Nat} (h : .flag number ∈ l.outstanding) :
    ∃ pending, l.pendingChange? number = some pending := by
  obtain ⟨pending, hpending, hnumber⟩ := flag_mem_outstanding.mp h
  rw [← Option.isSome_iff_exists, pendingChange?, List.find?_isSome]
  exact ⟨pending, hpending, decide_eq_true hnumber⟩

/-- A completion of an outstanding request is applied. -/
theorem complete_ne_ignored {l : Loader} {completion : Completion}
    (h : completion.requestId ∈ l.outstanding) : (l.complete completion).2 ≠ .ignored := by
  cases completion with
  | page ticket result =>
    rw [l.complete_page_of_mem (page_mem_outstanding.mp h)]
    exact nofun
  | flag number result =>
    obtain ⟨pending, hfind⟩ := exists_pendingChange? h
    cases result with
    | ok _ =>
      rw [l.complete_flag_of_ok hfind]
      exact nofun
    | error cause =>
      rw [l.complete_flag_of_error hfind]
      exact nofun

/-- Nothing is asked for when a completion is applied. -/
theorem requests_complete (l : Loader) (completion : Completion) :
    (l.complete completion).1.requests = l.requests := by
  cases completion with
  | page ticket result => exact (l.sameRecord_complete_page ticket result).requests
  | flag number result =>
    cases hfind : l.pendingChange? number with
    | none => rw [l.complete_flag_of_unknown hfind result]
    | some pending =>
      cases result with
      | ok _ =>
        rw [l.complete_flag_of_ok hfind]
        split <;> rfl
      | error cause =>
        rw [l.complete_flag_of_error hfind]
        split
        · rw [takeBack_eq]
          rfl
        · rfl

theorem nextNumber_complete (l : Loader) (completion : Completion) :
    (l.complete completion).1.nextNumber = l.nextNumber := by
  cases completion with
  | page ticket result => exact (l.sameRecord_complete_page ticket result).nextNumber
  | flag number result =>
    cases hfind : l.pendingChange? number with
    | none => rw [l.complete_flag_of_unknown hfind result]
    | some pending => exact (l.pendingChanges_complete_flag hfind result).2

/-- The numbers of pending changes are given once each. -/
theorem Ledger.nodup_flags {l : Loader} (h : Ledger l) :
    (l.pendingChanges.map fun pending => RequestId.flag pending.number).Nodup :=
  List.pairwise_map.mpr (h.sorted.imp fun hlt heq => Nat.ne_of_lt hlt (RequestId.flag.inj heq))

/-- **A completion removes its request from those that are outstanding**, and no other. -/
theorem Ledger.outstanding_complete {l : Loader} (h : Ledger l) (completion : Completion) :
    (l.complete completion).1.outstanding = l.outstanding.erase completion.requestId := by
  by_cases hmem : completion.requestId ∈ l.outstanding
  · cases completion with
    | page ticket result =>
      have hticket : RequestId.page ticket ∈ l.pendingPages.map .page :=
        List.mem_map_of_mem (page_mem_outstanding.mp hmem)
      have hinjective : Function.Injective RequestId.page := fun _ _ => RequestId.page.inj
      rw [outstanding, pendingPages_complete_page,
        (l.sameRecord_complete_page ticket result).pendingChanges, List.map_erase hinjective,
        outstanding, Completion.requestId, List.erase_append_left _ hticket]
    | flag number result =>
      obtain ⟨pending, hfind⟩ := exists_pendingChange? hmem
      have hpages : RequestId.flag number ∉ l.pendingPages.map .page := by simp
      -- No other change has the number, so that dropping the change is erasing its number.
      have hrest : (l.withoutChange number).pendingChanges.map (fun p => RequestId.flag p.number) =
          (l.pendingChanges.map fun p => RequestId.flag p.number).erase (.flag number) := by
        rw [h.nodup_flags.erase_eq_filter, List.filter_map, withoutChange]
        refine congrArg _ (List.filter_congr fun p _ => ?_)
        by_cases hp : p.number = number <;> simp [hp]
      rw [outstanding, (l.samePlace_complete_flag number result).pendingPages,
        (l.pendingChanges_complete_flag hfind result).1, hrest, outstanding, Completion.requestId,
        List.erase_append_right _ hpages]
  · rw [complete_of_not_outstanding hmem, List.erase_of_not_mem hmem]

/-- The request that an act completes, if it completes one. -/
def answer? : Loader × Act → Option RequestId
  | (l, .complete completion) =>
    match (l.complete completion).2 with
    | .ignored => none
    | _ => some completion.requestId
  | _ => none

theorem answer?_complete (l : Loader) (completion : Completion) :
    answer? (l, .complete completion) =
      if completion.requestId ∈ l.outstanding then some completion.requestId else none := by
  by_cases hmem : completion.requestId ∈ l.outstanding
  · have happlied := complete_ne_ignored hmem
    rw [if_pos hmem, answer?]
    split
    · next hignored => exact absurd hignored happlied
    · rfl
  · rw [if_neg hmem, answer?, complete_of_not_outstanding hmem]

/-! ### What the other acts do -/

/-- What an act that completes nothing does to the requests: nothing, or it issues one. -/
inductive Asking (l l' : Loader) : Prop
  | nothing (hrequests : l'.requests = l.requests) (hpages : l'.pendingPages = l.pendingPages)
      (hchanges : l'.pendingChanges = l.pendingChanges) (hnumber : l'.nextNumber = l.nextNumber)
  | page (ticket : Ticket) (hrequests : l'.requests = l.requests ++ [.page ticket])
      (hpages : l'.pendingPages = l.pendingPages ++ [ticket])
      (hchanges : l'.pendingChanges = l.pendingChanges) (hnumber : l'.nextNumber = l.nextNumber)
  | change (call : Call) (pending : PendingChange) (hpending : pending.number = l.nextNumber)
      (hrequests : l'.requests = l.requests ++ [.flag l.nextNumber call])
      (hpages : l'.pendingPages = l.pendingPages)
      (hchanges : l'.pendingChanges = l.pendingChanges ++ [pending])
      (hnumber : l'.nextNumber = l.nextNumber + 1)

/-- An act is a completion, or it completes nothing and issues one request at most. -/
theorem completes_or_asks (l : Loader) (act : Act) :
    (∃ completion, act = .complete completion) ∨
      answer? (l, act) = none ∧ Asking l (l.step act) := by
  cases act with
  | complete completion => exact .inl ⟨completion, rfl⟩
  | reset context =>
    refine .inr ⟨rfl, ?_⟩
    simp only [step, reset_eq, loadOffline_eq]
    exact .nothing rfl rfl rfl rfl
  | loadOffline =>
    refine .inr ⟨rfl, ?_⟩
    rw [step, loadOffline_eq]
    exact .nothing rfl rfl rfl rfl
  | changeLevel level => exact .inr ⟨rfl, .nothing rfl rfl rfl rfl⟩
  | requestPage =>
    refine .inr ⟨rfl, ?_⟩
    cases hidle : l.fetch.isIdle with
    | false =>
      rw [step, l.requestPage_of_busy hidle]
      exact .nothing rfl rfl rfl rfl
    | true =>
      rw [step, l.requestPage_of_idle hidle]
      exact .page l.nextTicket rfl rfl rfl rfl
  | mark change id =>
    refine .inr ⟨rfl, ?_⟩
    cases hfind : l.collection.find? id with
    | none =>
      rw [step, l.mark_of_unknown change hfind]
      exact .nothing rfl rfl rfl rfl
    | some story =>
      by_cases hset : change.get story = change.target
      · rw [step, l.mark_of_set hfind hset]
        exact .nothing rfl rfl rfl rfl
      · rw [step, l.mark_of_unset hfind hset]
        exact .change _ _ rfl rfl rfl rfl rfl
  | markAllRead =>
    refine .inr ⟨rfl, ?_⟩
    rw [step, markAllRead_eq]
    exact .change _ _ rfl rfl rfl rfl rfl
  | useCache cache => exact .inr ⟨rfl, .nothing rfl rfl rfl rfl⟩

/-- What an act asks for is outstanding then. -/
theorem Asking.outstanding {l l' : Loader} (h : Asking l l') :
    ∃ asked, l'.issued = l.issued ++ asked ∧ l'.outstanding.Perm (l.outstanding ++ asked) := by
  cases h with
  | nothing hrequests hpages hchanges hnumber =>
    refine ⟨[], ?_, ?_⟩
    · rw [issued, hrequests, List.append_nil, issued]
    · rw [Loader.outstanding, hpages, hchanges, List.append_nil, Loader.outstanding]
  | page ticket hrequests hpages hchanges hnumber =>
    refine ⟨[.page ticket], ?_, ?_⟩
    · rw [issued, hrequests, List.map_append]
      rfl
    · rw [Loader.outstanding, hpages, hchanges, List.map_append, List.append_assoc,
        Loader.outstanding, List.append_assoc]
      exact List.perm_append_comm.append_left _
  | change call pending hpending hrequests hpages hchanges hnumber =>
    refine ⟨[.flag pending.number], ?_, ?_⟩
    · rw [issued, hrequests, List.map_append, hpending]
      rfl
    · rw [Loader.outstanding, hpages, hchanges, List.map_append, ← List.append_assoc,
        Loader.outstanding]
      rfl

/-- Flag changes are numbered in the order in which they are made. -/
theorem Asking.issuedNumbers {l l' : Loader} (h : Asking l l')
    (hnumbers : l.issuedNumbers = List.range l.nextNumber) :
    l'.issuedNumbers = List.range l'.nextNumber := by
  cases h with
  | nothing hrequests hpages hchanges hnumber =>
    rw [Loader.issuedNumbers, hrequests, hnumber]
    exact hnumbers
  | page ticket hrequests hpages hchanges hnumber =>
    rw [Loader.issuedNumbers, hrequests, hnumber, List.filterMap_append]
    exact (List.append_nil _).trans hnumbers
  | change call pending hpending hrequests hpages hchanges hnumber =>
    rw [Loader.issuedNumbers, hrequests, hnumber, List.filterMap_append, List.range_succ,
      ← hnumbers]
    rfl

/-! ### The balance of a run -/

/-- **What was outstanding and what is asked for is answered or outstanding then.** -/
theorem Ledger.step_outstanding {l : Loader} (h : Ledger l) (act : Act) :
    ∃ asked, (l.step act).issued = l.issued ++ asked ∧
      ((answer? (l, act)).toList ++ (l.step act).outstanding).Perm (l.outstanding ++ asked) := by
  rcases l.completes_or_asks act with ⟨completion, rfl⟩ | ⟨hnone, hasking⟩
  · refine ⟨[], ?_, ?_⟩
    · rw [issued, Loader.step, requests_complete, List.append_nil, issued]
    · rw [Loader.step, h.outstanding_complete, answer?_complete, List.append_nil]
      by_cases hmem : completion.requestId ∈ l.outstanding
      · rw [if_pos hmem]
        exact (List.perm_cons_erase hmem).symm
      · rw [if_neg hmem, List.erase_of_not_mem hmem]
        exact .refl _
  · rw [hnone]
    exact hasking.outstanding

/-- The requests that a run completes, in order. -/
def answered (l : Loader) (acts : List Act) : List RequestId := (l.history acts).filterMap answer?

theorem answered_cons (l : Loader) (act : Act) (acts : List Act) :
    l.answered (act :: acts) = (answer? (l, act)).toList ++ (l.step act).answered acts := by
  rw [answered, history, List.filterMap_cons]
  cases answer? (l, act) <;> rfl

open scoped List in
/-- **The books balance**: what was outstanding before a run and what the run asks for is what it
answers and what is outstanding then. -/
theorem Ledger.run_outstanding {l : Loader} (h : Ledger l) (acts : List Act) :
    ∃ asked, (l.run acts).issued = l.issued ++ asked ∧
      (l.answered acts ++ (l.run acts).outstanding).Perm (l.outstanding ++ asked) := by
  induction acts generalizing l with
  | nil => exact ⟨[], by simp, by simp [answered, history]⟩
  | cons act acts ih =>
    obtain ⟨asked, hissued, hperm⟩ := h.step_outstanding act
    obtain ⟨asked', hissued', hperm'⟩ := ih (h.step act)
    refine ⟨asked ++ asked', ?_, ?_⟩
    · rw [run_cons, hissued', hissued, List.append_assoc]
    · -- What the first act leaves outstanding is answered by the acts that follow, or not at all.
      calc l.answered (act :: acts) ++ (l.run (act :: acts)).outstanding
          = (answer? (l, act)).toList ++
              ((l.step act).answered acts ++ ((l.step act).run acts).outstanding) := by
            rw [answered_cons, List.append_assoc, run_cons]
        _ ~ (answer? (l, act)).toList ++ ((l.step act).outstanding ++ asked') :=
            hperm'.append_left _
        _ = ((answer? (l, act)).toList ++ (l.step act).outstanding) ++ asked' :=
            (List.append_assoc ..).symm
        _ ~ (l.outstanding ++ asked) ++ asked' := hperm.append_right _
        _ = l.outstanding ++ (asked ++ asked') := List.append_assoc ..

theorem Reachable.issuedNumbers {l : Loader} (h : Reachable l) :
    l.issuedNumbers = List.range l.nextNumber := by
  induction h with
  | new context cache pageSize => rfl
  | @step l act _ ih =>
    rcases l.completes_or_asks act with ⟨completion, rfl⟩ | ⟨-, hasking⟩
    · rw [Loader.issuedNumbers, Loader.step, requests_complete, nextNumber_complete]
      exact ih
    · exact hasking.issuedNumbers ih

/-! ### No request is outstanding twice -/

theorem Reachable.pagesInOrder {l : Loader} (h : Reachable l) :
    ∃ merges, PagesInOrder l merges := by
  obtain ⟨context, cache, pageSize, acts, rfl⟩ := h.exists_run
  exact ⟨_, pagesInOrder_run context cache pageSize acts⟩

/-- **A request is outstanding once at most**: a generation waits for one page, and a number is
given once. -/
theorem Reachable.nodup_outstanding {l : Loader} (h : Reachable l) : l.outstanding.Nodup := by
  obtain ⟨merges, horder⟩ := h.pagesInOrder
  have hpages : l.pendingPages.Nodup := by
    refine List.nodup_iff_count_le_one.mpr fun ticket => ?_
    have hcount : l.pendingPages.count ticket ≤ l.pendingOf ticket.generation := by
      refine List.countP_mono_left fun t _ heq => ?_
      rw [eq_of_beq heq]
      exact decide_eq_true rfl
    exact Nat.le_trans hcount (horder.pendingOf_le ticket.generation)
  have hpageIds : (l.pendingPages.map RequestId.page).Nodup :=
    hpages.map fun _ _ => RequestId.page.inj
  refine List.nodup_append.mpr ⟨hpageIds, h.ledger.nodup_flags, ?_⟩
  -- A page and a flag change never have the same id.
  rintro _ hpage _ hflag rfl
  obtain ⟨ticket, -, rfl⟩ := List.mem_map.mp hpage
  obtain ⟨pending, -, heq⟩ := List.mem_map.mp hflag
  cases heq

/-- A loader that waits for no request is not fetching. -/
theorem Reachable.fetching_eq_false {l : Loader} (h : Reachable l) (hidle : l.inFlight = 0) :
    l.fetch.fetching = false := by
  obtain ⟨merges, horder⟩ := h.pagesInOrder
  have hpages : l.pendingPages = [] := by
    rw [inFlight] at hidle
    exact List.eq_nil_of_length_eq_zero (Nat.eq_zero_of_add_eq_zero_right hidle)
  have hcurrent := horder.pendingOf_current
  rw [pendingOf, hpages, List.countP_nil] at hcurrent
  by_contra hfetching
  rw [if_pos (eq_true_of_ne_false hfetching)] at hcurrent
  omega

/-! ### Waiting for all of them -/

theorem processNext_of_idle {l : Loader} (h : l.inFlight = 0) (arriving : List Completion) :
    l.processNext arriving = (l, none, arriving) := by
  cases arriving with
  | nil => rfl
  | cons completion rest => rw [processNext, if_pos h]

theorem processNext_cons {l : Loader} (h : l.inFlight ≠ 0) (completion : Completion)
    (rest : List Completion) :
    l.processNext (completion :: rest) =
      ((l.complete completion).1, some (l.complete completion).2, rest) := by
  rw [processNext, if_neg h]

/-- Waiting for all requests is processing one completion after the other. -/
theorem settle_eq_processNext (l : Loader) (arriving : List Completion) :
    l.settle arriving =
      match l.processNext arriving with
      | (idle, none, left) => (idle, 0, left)
      | (applied, some _, left) =>
        let (settled, count, left) := applied.settle left
        (settled, count + 1, left) := by
  cases arriving with
  | nil => rfl
  | cons completion rest =>
    rw [settle, processNext]
    split <;> rfl

theorem settle_of_idle {l : Loader} (h : l.inFlight = 0) (arriving : List Completion) :
    l.settle arriving = (l, 0, arriving) := by
  rw [settle_eq_processNext, processNext_of_idle h]

theorem settle_cons {l : Loader} (h : l.inFlight ≠ 0) (completion : Completion)
    (rest : List Completion) :
    l.settle (completion :: rest) =
      (((l.complete completion).1.settle rest).1, ((l.complete completion).1.settle rest).2.1 + 1,
        ((l.complete completion).1.settle rest).2.2) := by
  rw [settle_eq_processNext, processNext_cons h]

/-- Waiting is a run of completions. -/
theorem settle_fst_eq_run (l : Loader) (arriving : List Completion) :
    ∃ taken, taken <+: arriving ∧ (l.settle arriving).1 = l.run (taken.map .complete) := by
  induction arriving generalizing l with
  | nil => exact ⟨[], List.prefix_rfl, rfl⟩
  | cons completion rest ih =>
    by_cases hidle : l.inFlight = 0
    · rw [settle_of_idle hidle]
      exact ⟨[], List.nil_prefix, rfl⟩
    · rw [settle_cons hidle]
      obtain ⟨taken, hprefix, hrun⟩ := ih (l.complete completion).1
      exact ⟨completion :: taken, List.cons_prefix_cons.mpr ⟨rfl, hprefix⟩, hrun⟩

theorem requests_settle (l : Loader) (arriving : List Completion) :
    (l.settle arriving).1.requests = l.requests := by
  induction arriving generalizing l with
  | nil => rfl
  | cons completion rest ih =>
    by_cases hidle : l.inFlight = 0
    · rw [settle_of_idle hidle]
    · rw [settle_cons hidle, ih, requests_complete]

/-- Waiting ends once a completion of each outstanding request has arrived, whatever else
arrives. -/
theorem Reachable.inFlight_settle {l : Loader} (h : Reachable l) {arriving : List Completion}
    (hall : l.outstanding ⊆ arriving.map Completion.requestId) :
    (l.settle arriving).1.inFlight = 0 := by
  induction arriving generalizing l with
  | nil => rw [← length_outstanding, settle, List.subset_nil.mp hall, List.length_nil]
  | cons completion rest ih =>
    by_cases hidle : l.inFlight = 0
    · rw [settle_of_idle hidle]
      exact hidle
    · rw [settle_cons hidle]
      refine ih (h.step (.complete completion)) fun id hid => ?_
      -- What is still outstanding is another request, since none is outstanding twice.
      rw [h.ledger.outstanding_complete, h.nodup_outstanding.mem_erase_iff] at hid
      exact (List.mem_cons.mp (hall hid.2)).resolve_left hid.1

/-- **Waiting ends with the last completion of an outstanding request**, in whichever order they
arrive, and what arrives behind them is left. -/
theorem Ledger.settle_of_perm {l : Loader} (h : Ledger l) {arriving : List Completion}
    (hperm : (arriving.map Completion.requestId).Perm l.outstanding) (later : List Completion) :
    l.settle (arriving ++ later) = (l.run (arriving.map .complete), arriving.length, later) ∧
      (l.run (arriving.map .complete)).inFlight = 0 := by
  induction arriving generalizing l with
  | nil =>
    have hidle : l.inFlight = 0 := by
      rw [← length_outstanding]
      exact hperm.length_eq.symm
    exact ⟨settle_of_idle hidle later, hidle⟩
  | cons completion rest ih =>
    have hbusy : l.inFlight ≠ 0 := by
      rw [← length_outstanding, ← hperm.length_eq]
      exact Nat.succ_ne_zero _
    have hrest : (rest.map Completion.requestId).Perm (l.complete completion).1.outstanding := by
      rw [h.outstanding_complete]
      exact (List.cons_perm_iff_perm_erase.mp hperm).2
    obtain ⟨hsettle, hidle⟩ := ih (h.step (.complete completion)) hrest
    refine ⟨?_, hidle⟩
    rw [List.cons_append, settle_cons hbusy]
    exact congrArg (fun settled => (settled.1, settled.2.1 + 1, settled.2.2)) hsettle

/-- **No request is lost or answered twice, and waiting ends.** In whatever run of a new loader, the
requests on record are those that have been answered and those that are outstanding, each as often;
none is outstanding twice, and the numbers of flag changes are all different. So the number of
requests in flight is that of the tickets and flag changes on record less that of the completions
that were applied, and no request is answered more often than it was issued. A completion is applied
exactly if its request has been issued more often than answered, and changes nothing otherwise.
Waiting ends once each outstanding request has been completed, asks for nothing, and leaves no
request in flight and no page being fetched; if nothing else arrives before, it has applied as many
completions as there were requests in flight. -/
theorem requests_balance (context : Context) (cache : Cache) (pageSize : Nat) (acts : List Act) :
    let start := Loader.new context cache pageSize
    let l := start.run acts
    (start.answered acts ++ l.outstanding).Perm l.issued ∧ l.outstanding.Nodup ∧
      l.issuedNumbers.Nodup ∧
      l.inFlight + (start.answered acts).length =
        l.issuedTickets.length + l.issuedNumbers.length ∧
      (∀ id, (start.answered acts).count id ≤ l.issued.count id) ∧
      (∀ completion,
        if (start.answered acts).count completion.requestId < l.issued.count completion.requestId
        then (l.complete completion).2 ≠ .ignored
        else l.complete completion = (l, .ignored)) ∧
      (∀ arriving, l.outstanding ⊆ arriving.map Completion.requestId →
        (l.settle arriving).1.inFlight = 0 ∧ (l.settle arriving).1.fetch.fetching = false ∧
          (l.settle arriving).1.requests = l.requests) ∧
      ∀ arriving later, (arriving.map Completion.requestId).Perm l.outstanding →
        ∃ settled, l.settle (arriving ++ later) = (settled, l.inFlight, later) ∧
          settled.inFlight = 0 ∧ settled.fetch.fetching = false ∧
          settled.requests = l.requests := by
  intro start l
  have hl : Reachable l := (Reachable.new context cache pageSize).run acts
  obtain ⟨asked, hissued, hperm⟩ := (Ledger.new context cache pageSize).run_outstanding acts
  have hbalance : (start.answered acts ++ l.outstanding).Perm l.issued := by
    rw [hissued]
    exact hperm
  have hcount : ∀ id,
      (start.answered acts).count id + l.outstanding.count id = l.issued.count id := by
    intro id
    rw [← hbalance.count_eq, List.count_append]
  refine ⟨hbalance, hl.nodup_outstanding, ?_, ?_, ?_, ?_, ?_, ?_⟩
  · rw [hl.issuedNumbers]
    exact List.nodup_range
  · have hlength := hbalance.length_eq
    rw [List.length_append, length_outstanding, length_issued] at hlength
    omega
  · intro id
    have hid := hcount id
    omega
  · intro completion
    have hid := hcount completion.requestId
    by_cases hmem : completion.requestId ∈ l.outstanding
    · have hpos := List.count_pos_iff.mpr hmem
      rw [if_pos (by omega)]
      exact complete_ne_ignored hmem
    · rw [List.count_eq_zero_of_not_mem hmem] at hid
      rw [if_neg (by omega)]
      exact complete_of_not_outstanding hmem
  · intro arriving hall
    have hidle := hl.inFlight_settle hall
    obtain ⟨taken, -, hrun⟩ := l.settle_fst_eq_run arriving
    have hsettled : Reachable (l.settle arriving).1 := hrun ▸ hl.run _
    exact ⟨hidle, hsettled.fetching_eq_false hidle, l.requests_settle arriving⟩
  · intro arriving later harriving
    have hlength := harriving.length_eq
    rw [List.length_map, length_outstanding] at hlength
    obtain ⟨hsettle, hidle⟩ := hl.ledger.settle_of_perm harriving later
    have hrequests := l.requests_settle (arriving ++ later)
    rw [hsettle] at hrequests
    rw [hsettle, hlength]
    exact ⟨_, rfl, hidle, (hl.run _).fetching_eq_false hidle, hrequests⟩

/-- A flag change and the second page are outstanding. -/
def changeAndPage : List Act :=
  [.reset { source := .feed 1 }, .requestPage,
    .complete (.page ⟨1, { source := .feed 1 }, 1⟩
      (.ok [{ id := ⟨"1:a"⟩, feedId := 1, title := "a" },
        { id := ⟨"1:b"⟩, feedId := 1, title := "b" }])),
    .requestPage, .mark .markRead ⟨"1:a"⟩]

/-- They may be completed in the reverse order, and a late completion of the first page is
ignored. -/
theorem requests_balance_changeAndPage :
    let start := Loader.new { source := .feed 1 } {} 2
    let l := start.run changeAndPage
    l.inFlight = 2 ∧
      l.complete (.page ⟨1, { source := .feed 1 }, 1⟩ (.ok [])) = (l, .ignored) ∧
      (l.settle [.flag 0 (.ok ()), .page ⟨1, { source := .feed 1 }, 2⟩ (.ok [])]).2 = (2, []) := by
  obtain ⟨-, -, -, hinFlight, -, hcomplete, -, hsettle⟩ :=
    requests_balance { source := .feed 1 } {} 2 changeAndPage
  obtain ⟨settled, hsettled, -⟩ :=
    hsettle [.flag 0 (.ok ()), .page ⟨1, { source := .feed 1 }, 2⟩ (.ok [])] [] (by decide +kernel)
  have htwo : ((Loader.new { source := .feed 1 } {} 2).run changeAndPage).inFlight = 2 :=
    Nat.add_right_cancel (hinFlight.trans (by decide +kernel))
  have hlate := hcomplete (.page ⟨1, { source := .feed 1 }, 1⟩ (.ok []))
  rw [if_neg (by decide +kernel)] at hlate
  refine ⟨htwo, hlate, ?_⟩
  rw [List.append_nil, htwo] at hsettled
  rw [hsettled]

end Loader

end FeedReader
