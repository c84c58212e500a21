import FeedReader.Proofs.Paging.Ledger
import Mathlib.Data.List.Induction

/-!
# Every flag change is answered once

A flag change is pending from the moment when it is made until the server has confirmed it or
it has failed. Since its number is never given again, **it is answered at most once**: no
change is both confirmed and failed, and what has been answered is pending no more
(`FeedReader.Loader.Answered`).
-/

namespace FeedReader

namespace Loader

/-- A change that is answered is not pending any more. -/
theorem pendingChanges_complete_flag (l : Loader) {number : Nat} {pending : PendingChange}
    (h : l.pendingChange? number = some pending) (result : Except FetchError Unit) :
    (l.complete (.flag number result)).1.pendingChanges =
        (l.withoutChange number).pendingChanges ∧
      (l.complete (.flag number result)).1.nextNumber = l.nextNumber := by
  cases result with
  | ok _ =>
    rw [l.complete_flag_of_ok h]
    constructor <;> split <;> rfl
  | error cause =>
    rw [l.complete_flag_of_error h cause]
    constructor <;> split <;> first | rfl | (rw [takeBack_eq]; rfl)

theorem confirmation?_of_pending {l : Loader} {number : Nat} {pending : PendingChange}
    (h : l.pendingChange? number = some pending) :
    confirmation? (l, .complete (.flag number (.ok ()))) = some number := by
  simp [confirmation?, l.complete_flag_of_ok h]

theorem failure?_of_pending {l : Loader} {number : Nat} {pending : PendingChange}
    (h : l.pendingChange? number = some pending) (cause : FetchError) :
    failure? (l, .complete (.flag number (.error cause))) = some number := by
  simp [failure?, l.complete_flag_of_error h]

/-- What an act does to the flag changes that are pending: nothing, or it makes one, or it
answers one. -/
theorem step_pendingChanges (l : Loader) (act : Act) :
    ((l.step act).pendingChanges = l.pendingChanges ∧ (l.step act).nextNumber = l.nextNumber ∧
        confirmation? (l, act) = none ∧ failure? (l, act) = none) ∨
      (∃ change targets,
        (l.step act).pendingChanges =
            l.pendingChanges ++ [⟨l.nextNumber, l.generation, change, targets⟩] ∧
          (l.step act).nextNumber = l.nextNumber + 1 ∧
          confirmation? (l, act) = none ∧ failure? (l, act) = none) ∨
      ∃ pending result, l.pendingChange? pending.number = some pending ∧
        act = .complete (.flag pending.number result) ∧
        (l.step act).pendingChanges = (l.withoutChange pending.number).pendingChanges ∧
        (l.step act).nextNumber = l.nextNumber ∧
        ((result = .ok () ∧ confirmation? (l, act) = some pending.number ∧
            failure? (l, act) = none) ∨
          ∃ cause, result = .error cause ∧ confirmation? (l, act) = none ∧
            failure? (l, act) = some pending.number) := by
  cases act with
  | reset context =>
    exact .inl (by simp only [step, reset_eq, loadOffline_eq]; exact ⟨rfl, rfl, rfl, rfl⟩)
  | loadOffline => exact .inl (by rw [step, loadOffline_eq]; exact ⟨rfl, rfl, rfl, rfl⟩)
  | changeLevel level => exact .inl ⟨rfl, rfl, rfl, rfl⟩
  | useCache cache => exact .inl ⟨rfl, rfl, rfl, rfl⟩
  | requestPage =>
    cases hidle : l.fetch.isIdle with
    | false => exact .inl (by rw [step, l.requestPage_of_busy hidle]; exact ⟨rfl, rfl, rfl, rfl⟩)
    | true => exact .inl (by rw [step, l.requestPage_of_idle hidle]; exact ⟨rfl, rfl, rfl, rfl⟩)
  | mark change id =>
    cases hfind : l.collection.find? id with
    | none =>
      exact .inl (by rw [step, l.mark_of_unknown change hfind]; exact ⟨rfl, rfl, rfl, rfl⟩)
    | some story =>
      by_cases hset : change.get story = change.target
      · exact .inl (by rw [step, l.mark_of_set hfind hset]; exact ⟨rfl, rfl, rfl, rfl⟩)
      · refine .inr (.inl ⟨change, [(story.id, change.get story)], ?_⟩)
        rw [step, l.mark_of_unset hfind hset]
        exact ⟨rfl, rfl, rfl, rfl⟩
  | markAllRead =>
    refine .inr (.inl ⟨.markAllRead, l.collection.unreadIds.map fun id => (id, false), ?_⟩)
    rw [step, markAllRead_eq]
    exact ⟨rfl, rfl, rfl, rfl⟩
  | complete completion =>
    cases completion with
    | page ticket result =>
      have hrecord := l.sameRecord_complete_page ticket result
      exact .inl ⟨hrecord.pendingChanges, hrecord.nextNumber, rfl, rfl⟩
    | flag number result =>
      cases hfind : l.pendingChange? number with
      | none =>
        refine .inl ?_
        have h := l.complete_flag_of_unknown hfind result
        rw [step, h]
        refine ⟨rfl, rfl, ?_, ?_⟩
        · cases result <;> simp [confirmation?, h]
        · cases result <;> simp [failure?, h]
      | some pending =>
        obtain rfl : pending.number = number := by simpa using List.find?_some hfind
        refine .inr (.inr ⟨pending, result, hfind, rfl, ?_⟩)
        obtain ⟨hchanges, hnumber⟩ := l.pendingChanges_complete_flag hfind result
        refine ⟨hchanges, hnumber, ?_⟩
        cases result with
        | ok _ => exact .inl ⟨rfl, confirmation?_of_pending hfind, rfl⟩
        | error cause => exact .inr ⟨cause, rfl, rfl, failure?_of_pending hfind cause⟩

/-- A change that is confirmed was pending. -/
theorem confirmation?_eq_some {l : Loader} {act : Act} {number : Nat}
    (h : confirmation? (l, act) = some number) :
    ∃ pending, l.pendingChange? pending.number = some pending ∧ pending.number = number ∧
      act = .complete (.flag pending.number (.ok ())) := by
  rcases l.step_pendingChanges act with ⟨-, -, hnone, -⟩ | ⟨_, _, -, -, hnone, -⟩ |
      ⟨pending, result, hfind, hact, -, -, ⟨rfl, hconf, -⟩ | ⟨_, -, hnone, -⟩⟩
  · rw [hnone] at h
    cases h
  · rw [hnone] at h
    cases h
  · rw [hconf] at h
    exact ⟨pending, hfind, Option.some.inj h, hact⟩
  · rw [hnone] at h
    cases h

/-- **What has been answered**: numbers that have been given, each with one answer only, and
none of them pending. -/
structure Answered (l : Loader) (confirmed failed : List Nat) : Prop where
  confirmed_lt : ∀ number ∈ confirmed, number < l.nextNumber
  failed_lt : ∀ number ∈ failed, number < l.nextNumber
  not_confirmed : ∀ pending ∈ l.pendingChanges, pending.number ∉ confirmed
  not_failed : ∀ pending ∈ l.pendingChanges, pending.number ∉ failed
  disjoint : ∀ number ∈ confirmed, number ∉ failed

namespace Answered

variable {l l' : Loader} {confirmed failed : List Nat}

/-- Fewer changes are pending. -/
theorem of_subset (h : Answered l confirmed failed)
    (hchanges : l'.pendingChanges ⊆ l.pendingChanges) (hnumber : l'.nextNumber = l.nextNumber) :
    Answered l' confirmed failed :=
  ⟨hnumber ▸ h.confirmed_lt, hnumber ▸ h.failed_lt,
    fun pending hmem => h.not_confirmed pending (hchanges hmem),
    fun pending hmem => h.not_failed pending (hchanges hmem), h.disjoint⟩

theorem made (h : Answered l confirmed failed) {pending : PendingChange}
    (hchanges : l'.pendingChanges = l.pendingChanges ++ [pending])
    (hpending : pending.number = l.nextNumber) (hnumber : l'.nextNumber = l.nextNumber + 1) :
    Answered l' confirmed failed where
  confirmed_lt number hmem := hnumber ▸ Nat.lt_succ_of_lt (h.confirmed_lt number hmem)
  failed_lt number hmem := hnumber ▸ Nat.lt_succ_of_lt (h.failed_lt number hmem)
  not_confirmed p hp := by
    rw [hchanges] at hp
    rcases List.mem_append.mp hp with hold | hnew
    · exact h.not_confirmed p hold
    · rw [List.mem_singleton.mp hnew, hpending]
      exact fun hmem => Nat.lt_irrefl _ (h.confirmed_lt _ hmem)
  not_failed p hp := by
    rw [hchanges] at hp
    rcases List.mem_append.mp hp with hold | hnew
    · exact h.not_failed p hold
    · rw [List.mem_singleton.mp hnew, hpending]
      exact fun hmem => Nat.lt_irrefl _ (h.failed_lt _ hmem)
  disjoint := h.disjoint

/-- The change that is answered is not pending any more. -/
theorem ne_of_withoutChange {number : Nat} :
    ∀ p ∈ (l.withoutChange number).pendingChanges, p.number ≠ number :=
  fun _ hp => of_decide_eq_true (List.mem_filter.mp hp).2

theorem confirm (h : Answered l confirmed failed) {pending : PendingChange}
    (hmem : pending ∈ l.pendingChanges) (hlt : pending.number < l.nextNumber)
    (hchanges : l'.pendingChanges = (l.withoutChange pending.number).pendingChanges)
    (hnumber : l'.nextNumber = l.nextNumber) :
    Answered l' (confirmed ++ [pending.number]) failed := by
  have hkept : Answered l' confirmed failed :=
    h.of_subset (by rw [hchanges]; exact List.filter_subset_self _) hnumber
  refine ⟨?_, hkept.failed_lt, fun p hp => ?_, hkept.not_failed, ?_⟩
  · exact List.forall_mem_append.mpr ⟨hkept.confirmed_lt, by simpa [hnumber] using hlt⟩
  · have hne := ne_of_withoutChange p (hchanges ▸ hp)
    simpa [hne] using hkept.not_confirmed p hp
  · exact List.forall_mem_append.mpr ⟨h.disjoint, by simpa using h.not_failed pending hmem⟩

theorem fail (h : Answered l confirmed failed) {pending : PendingChange}
    (hmem : pending ∈ l.pendingChanges) (hlt : pending.number < l.nextNumber)
    (hchanges : l'.pendingChanges = (l.withoutChange pending.number).pendingChanges)
    (hnumber : l'.nextNumber = l.nextNumber) :
    Answered l' confirmed (failed ++ [pending.number]) := by
  have hkept : Answered l' confirmed failed :=
    h.of_subset (by rw [hchanges]; exact List.filter_subset_self _) hnumber
  refine ⟨hkept.confirmed_lt, ?_, hkept.not_confirmed, fun p hp => ?_, fun number hconf => ?_⟩
  · exact List.forall_mem_append.mpr ⟨hkept.failed_lt, by simpa [hnumber] using hlt⟩
  · have hne := ne_of_withoutChange p (hchanges ▸ hp)
    simpa [hne] using hkept.not_failed p hp
  · have hne : number ≠ pending.number := fun heq => h.not_confirmed pending hmem (heq ▸ hconf)
    simpa [hne] using h.disjoint number hconf

theorem step (h : Answered l confirmed failed) (hledger : Ledger l) (act : Act) :
    Answered (l.step act) (confirmed ++ (confirmation? (l, act)).toList)
      (failed ++ (failure? (l, act)).toList) := by
  rcases l.step_pendingChanges act with ⟨hchanges, hnumber, hconf, hfail⟩ |
      ⟨change, targets, hchanges, hnumber, hconf, hfail⟩ |
      ⟨pending, result, hfind, -, hchanges, hnumber, ⟨-, hconf, hfail⟩ | ⟨_, -, hconf, hfail⟩⟩ <;>
    simp only [hconf, hfail, Option.toList_none, Option.toList_some, List.append_nil]
  · exact h.of_subset (hchanges ▸ List.Subset.refl _) hnumber
  · exact h.made hchanges rfl hnumber
  · have hmem := List.mem_of_find?_eq_some hfind
    exact h.confirm hmem (hledger.number_lt hmem) hchanges hnumber
  · have hmem := List.mem_of_find?_eq_some hfind
    exact h.fail hmem (hledger.number_lt hmem) hchanges hnumber

end Answered

/-- **A flag change is answered at most once** in a run. -/
theorem answered_run {l : Loader} (hl : Reachable l) (acts : List Act) :
    Answered (l.run acts) (l.confirmations acts) (l.failures acts) := by
  induction acts using List.reverseRecOn with
  | nil => exact ⟨by simp [confirmations, history], by simp [failures, history],
      by simp [confirmations, history], by simp [failures, history],
      by simp [confirmations, history]⟩
  | append_singleton acts act ih =>
    rw [run_append, confirmations, failures, filterMap_history_concat, filterMap_history_concat]
    exact ih.step (hl.run acts).ledger act

/-- A change that is confirmed has not been answered before. -/
theorem not_mem_of_confirmation? {l : Loader} (hl : Reachable l) {acts : List Act} {act : Act}
    {number : Nat} (h : confirmation? (l.run acts, act) = some number) :
    number ∉ l.confirmations acts ∧ number ∉ l.failures acts := by
  obtain ⟨pending, hfind, rfl, -⟩ := confirmation?_eq_some h
  have hpending := List.mem_of_find?_eq_some hfind
  have hanswered := answered_run hl acts
  exact ⟨hanswered.not_confirmed pending hpending, hanswered.not_failed pending hpending⟩

end Loader

end FeedReader
