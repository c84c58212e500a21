import FeedReader.Proofs.Paging.FlagEffect

/-!
# Where flags settle

When all changes of a flag have been answered, the flag should have the value that the server
has: that of the latest change which the server confirmed, or the value before if it confirmed
none. **This is not so in every run.** A change that fails gives the flag back the value that
the change met, even when that value belonged to an earlier change which has failed as well, or
when a later change has been confirmed meanwhile.

What is true is that a flag goes wrong in no other way (`FeedReader.Loader.flags_settle`):

* if the last that was written to it came from a change, it has the server's value;
* if the last that was written to it was a value given back, it has the server's value exactly
  if that value is the server's;
* if changes **fail in the reverse order** in which they were made, it has the server's value.
-/

namespace FeedReader

namespace Loader

open Collection

/-- The changes of a flag that are made in a run, in order. -/
def changesOf (l : Loader) (flag : Flag) (id : StoryId) (acts : List Act) : List Made :=
  (l.history acts).filterMap (made? flag id)

/-- What is written to a flag in a run, in order. -/
def writesOf (l : Loader) (flag : Flag) (id : StoryId) (acts : List Act) : List Write :=
  (l.history acts).filterMap (write? flag id)

/-- The value after some changes, the last of which counts. -/
def lastTarget (before : Bool) (changes : List Made) : Bool :=
  (changes.getLast?.map Made.target).getD before

/-- The value after something has been written. -/
def lastWritten (before : Bool) (writes : List Write) : Bool :=
  (writes.getLast?.map Write.value).getD before

/-- The value that the server has in the end: that of the latest change that it confirmed. -/
def accepted (before : Bool) (changes : List Made) (confirmed : List Nat) : Bool :=
  lastTarget before (changes.filter fun made => made.number ∈ confirmed)

/-- Whether each change of a flag that fails was made after all those that have not failed yet. -/
def FailsInReverse (l : Loader) (flag : Flag) (id : StoryId) (acts : List Act) : Prop :=
  ∀ acts₁ act acts₂, acts = acts₁ ++ act :: acts₂ → ∀ failed ∈ l.changesOf flag id acts₁,
    failure? (l.run acts₁, act) = some failed.number →
      ∀ made ∈ l.changesOf flag id acts₁, failed.number < made.number →
        made.number ∈ l.failures acts₁

theorem lastTarget_concat (before : Bool) (changes : List Made) (made : Made) :
    lastTarget before (changes ++ [made]) = made.target := by
  simp [lastTarget]

theorem lastTarget_append (before : Bool) (changes changes' : List Made) :
    lastTarget before (changes ++ changes') = lastTarget (lastTarget before changes) changes' := by
  cases h : changes'.getLast? <;> simp [lastTarget, List.getLast?_append, h]

/-- Changes that all want the same value. -/
theorem lastTarget_eq_of_forall {before value : Bool} {changes : List Made}
    (h : ∀ made ∈ changes, made.target = value) (hnil : changes = [] → before = value) :
    lastTarget before changes = value := by
  cases hlast : changes.getLast? with
  | none => simp [lastTarget, hlast, hnil (List.getLast?_eq_none_iff.mp hlast)]
  | some made => simp [lastTarget, hlast, h made (List.mem_of_getLast? hlast)]

theorem FailsInReverse.of_append {l : Loader} {flag : Flag} {id : StoryId} {acts acts' : List Act}
    (h : l.FailsInReverse flag id (acts ++ acts')) : l.FailsInReverse flag id acts := by
  intro acts₁ act acts₂ hacts
  exact h acts₁ act (acts₂ ++ acts') (by simp [hacts])

variable {l : Loader} {flag : Flag} {id : StoryId} {act : Act} {value before : Bool}
  {made : List Made} {writes : List Write} {confirmed failed : List Nat}

/-! ### The changes that were made -/

/-- The changes of a flag that were made have numbers in order, and each has been confirmed, has
failed or is pending. -/
structure Accounted (flag : Flag) (id : StoryId) (l : Loader) (made : List Made)
    (confirmed failed : List Nat) : Prop where
  lt : ∀ m ∈ made, m.number < l.nextNumber
  sorted : made.Pairwise fun m m' => m.number < m'.number
  status : ∀ m ∈ made, m.number ∈ confirmed ∨ m.number ∈ failed ∨
    ∃ p ∈ l.pendingFor flag id, p.number = m.number

theorem nextNumber_le_step (l : Loader) (act : Act) : l.nextNumber ≤ (l.step act).nextNumber := by
  rcases l.step_pendingChanges act with
    ⟨-, h, -⟩ | ⟨_, _, -, h, -⟩ | ⟨_, _, -, -, -, h, -⟩ <;> omega

theorem Accounted.step (h : Accounted flag id l made confirmed failed)
    (hledger : Ledger (l.step act)) (heffect : FlagEffect flag id l act value) :
    Accounted flag id (l.step act) (made ++ (made? flag id (l, act)).toList)
      (confirmed ++ (confirmation? (l, act)).toList) (failed ++ (failure? (l, act)).toList) := by
  have hlt : ∀ m ∈ made, m.number < (l.step act).nextNumber := fun m hm =>
    Nat.lt_of_lt_of_le (h.lt m hm) (nextNumber_le_step l act)
  -- What is pending stays so, or is answered now.
  have hstatus : ∀ {confirmed' failed' : List Nat},
      (∀ p ∈ l.pendingFor flag id, p ∈ (l.step act).pendingFor flag id ∨
        p.number ∈ confirmed' ∨ p.number ∈ failed') →
      ∀ m ∈ made, m.number ∈ confirmed ++ confirmed' ∨ m.number ∈ failed ++ failed' ∨
        ∃ p ∈ (l.step act).pendingFor flag id, p.number = m.number := by
    intro confirmed' failed' hpending m hm
    rcases h.status m hm with hconf | hfail | ⟨p, hp, hpm⟩
    · exact .inl (List.mem_append_left _ hconf)
    · exact .inr (.inl (List.mem_append_left _ hfail))
    · rw [← hpm]
      rcases hpending p hp with hkept | hconf | hfail
      · exact .inr (.inr ⟨p, hkept, rfl⟩)
      · exact .inl (List.mem_append_right _ hconf)
      · exact .inr (.inl (List.mem_append_right _ hfail))
  cases heffect with
  | unconcerned hmade hwrite hvalue hpending =>
    rw [hmade, Option.toList_none, List.append_nil]
    exact ⟨hlt, h.sorted, hstatus fun p hp => .inl (hpending ▸ hp)⟩
  | made pending hnumber hfailed hmade hwrite hvalue hpending hbefore =>
    have hmem : pending ∈ (l.step act).pendingFor flag id := by simp [hpending]
    have hnew : pending.made.number < (l.step act).nextNumber :=
      hledger.number_lt (mem_pendingFor.mp hmem).1
    rw [hmade, Option.toList_some]
    refine ⟨List.forall_mem_append.mpr ⟨hlt, List.forall_mem_singleton.mpr hnew⟩, ?_,
      List.forall_mem_append.mpr ⟨hstatus fun p hp => .inl (by simp [hpending, hp]), ?_⟩⟩
    · refine List.pairwise_append.mpr ⟨h.sorted, List.pairwise_singleton _ _, fun m hm => ?_⟩
      refine List.forall_mem_singleton.mpr ?_
      rw [PendingChange.made, hnumber]
      exact h.lt m hm
    · exact List.forall_mem_singleton.mpr (.inr (.inr ⟨pending, hmem, rfl⟩))
  | confirmed pending hmem hconfirmed hfailed hmade hwrite hvalue hpending =>
    rw [hmade, hconfirmed, Option.toList_none, List.append_nil]
    refine ⟨hlt, h.sorted, hstatus fun p hp => ?_⟩
    by_cases heq : p.number = pending.number
    · exact .inr (.inl (by simp [heq]))
    · exact .inl (by simp [hpending, hp, heq])
  | failed pending hmem hfailed hmade hwrite hvalue hpending =>
    rw [hmade, hfailed, Option.toList_none, List.append_nil]
    refine ⟨hlt, h.sorted, hstatus fun p hp => ?_⟩
    by_cases heq : p.number = pending.number
    · exact .inr (.inr (by simp [heq]))
    · exact .inl (by simp [hpending, hp, heq])

/-! ### The last that was written -/

/-- A flag has the value that was written last. If that came from a change, no later change
differs from it, and the change has been confirmed unless it is pending still. -/
structure Written (flag : Flag) (id : StoryId) (l : Loader) (before : Bool) (made : List Made)
    (writes : List Write) (confirmed : List Nat) : Prop where
  value : l.collection.flag? flag id = some (lastWritten before writes)
  untouched : writes = [] → ∀ m ∈ made, m.target = before
  changed : ∀ m, writes.getLast? = some (.change m) →
    ∃ earlier later, made = earlier ++ m :: later ∧ (∀ m' ∈ later, m'.target = m.target) ∧
      (m.number ∈ confirmed ∨
        ∃ p ∈ l.pendingFor flag id, p.number = m.number ∧ valueFor? p.targets id ≠ none)

theorem Written.step (h : Written flag id l before made writes confirmed) (hledger : Ledger l)
    (heffect : FlagEffect flag id l act (lastWritten before writes)) :
    Written flag id (l.step act) before (made ++ (made? flag id (l, act)).toList)
      (writes ++ (write? flag id (l, act)).toList)
      (confirmed ++ (confirmation? (l, act)).toList) := by
  cases heffect with
  | unconcerned hmade hwrite hvalue hpending =>
    rw [hmade, hwrite, Option.toList_none, Option.toList_none, List.append_nil, List.append_nil]
    refine ⟨hvalue, h.untouched, fun m hm => ?_⟩
    obtain ⟨earlier, later, hmade', hlater, hstatus⟩ := h.changed m hm
    refine ⟨earlier, later, hmade', hlater, ?_⟩
    rw [hpending]
    exact hstatus.imp_left (List.mem_append_left _)
  | made pending hnumber hfailed hmade hwrite hvalue hpending hbefore =>
    rw [hmade, hwrite, Option.toList_some]
    by_cases hsame : lastWritten before writes = pending.change.target
    · -- All stories are marked, and this one is marked already.
      rw [if_pos hsame, Option.toList_none, List.append_nil]
      refine ⟨hsame ▸ hvalue, fun hnil => ?_, fun m hm => ?_⟩
      · refine List.forall_mem_append.mpr ⟨h.untouched hnil, List.forall_mem_singleton.mpr ?_⟩
        rw [PendingChange.made, ← hsame, hnil]
        rfl
      · obtain ⟨earlier, later, hmade', hlater, hstatus⟩ := h.changed m hm
        refine ⟨earlier, later ++ [pending.made], by simp [hmade'], ?_, ?_⟩
        · refine List.forall_mem_append.mpr ⟨hlater, List.forall_mem_singleton.mpr ?_⟩
          rw [PendingChange.made, ← hsame, lastWritten, hm]
          rfl
        · refine hstatus.imp (List.mem_append_left _) ?_
          rintro ⟨p, hp, hpm⟩
          exact ⟨p, by simp [hpending, hp], hpm⟩
    · rw [if_neg hsame, Option.toList_some]
      refine ⟨by simpa [lastWritten, Write.value, PendingChange.made] using hvalue,
        fun hnil => absurd hnil (by simp), fun m hm => ?_⟩
      obtain rfl : pending.made = m := by simpa using hm
      refine ⟨made, [], rfl, by simp, .inr ⟨pending, by simp [hpending], rfl, ?_⟩⟩
      simp [hbefore, hsame]
  | confirmed pending hmem hconfirmed hfailed hmade hwrite hvalue hpending =>
    rw [hmade, hwrite, hconfirmed, Option.toList_none, Option.toList_none, List.append_nil,
      List.append_nil]
    refine ⟨hvalue, h.untouched, fun m hm => ?_⟩
    obtain ⟨earlier, later, hmade', hlater, hstatus⟩ := h.changed m hm
    refine ⟨earlier, later, hmade', hlater, ?_⟩
    rcases hstatus with hconf | ⟨p, hp, hpm, htarget⟩
    · exact .inl (List.mem_append_left _ hconf)
    · by_cases heq : p.number = pending.number
      · exact .inl (by simp [← hpm, heq])
      · exact .inr ⟨p, by simp [hpending, hp, heq], hpm, htarget⟩
  | failed pending hmem hfailed hmade hwrite hvalue hpending =>
    rw [hmade, hwrite, Option.toList_none, List.append_nil]
    cases hback : valueFor? pending.targets id with
    | some value =>
      rw [Option.map_some, Option.toList_some]
      refine ⟨by simpa [lastWritten, Write.value, hback] using hvalue,
        fun hnil => absurd hnil (by simp), fun m hm => absurd hm (by simp)⟩
    | none =>
      rw [Option.map_none, Option.toList_none, List.append_nil]
      refine ⟨by simpa [hback] using hvalue, h.untouched, fun m hm => ?_⟩
      obtain ⟨earlier, later, hmade', hlater, hstatus⟩ := h.changed m hm
      refine ⟨earlier, later, hmade', hlater, hstatus.imp (List.mem_append_left _) ?_⟩
      rintro ⟨p, hp, hpm, htarget⟩
      have hne : p.number ≠ pending.number := by
        intro heq
        obtain rfl := hledger.eq_of_number (mem_pendingFor.mp hp).1 (mem_pendingFor.mp hmem).1 heq
        exact htarget hback
      exact ⟨p, by simp [hpending, hp, hne], hpm, htarget⟩

/-! ### Failing in the reverse order -/

/-- The changes that have not failed, in order. -/
def standing (made : List Made) (failed : List Nat) : List Made :=
  made.filter fun m => m.number ∉ failed

theorem standing_concat (made : List Made) (failed : List Nat) (number : Nat) :
    standing made (failed ++ [number]) =
      (standing made failed).filter fun m => m.number ≠ number := by
  simp only [standing, List.filter_filter]
  refine List.filter_congr fun m _ => ?_
  simp [and_comm]

/-- **The changes that stand lie on top of each other**: the flag has the value of the uppermost,
and each remembers the value of the one below it. -/
structure Stacked (flag : Flag) (id : StoryId) (l : Loader) (before : Bool) (made : List Made)
    (failed : List Nat) : Prop where
  value : l.collection.flag? flag id = some (lastTarget before (standing made failed))
  pending : ∀ p ∈ l.pendingFor flag id, ∃ below above,
    standing made failed = below ++ p.made :: above ∧
      (valueFor? p.targets id).getD p.change.target = lastTarget before below

theorem Stacked.step (h : Stacked flag id l before made failed)
    (haccounted : Accounted flag id l made confirmed failed)
    (hanswered : Answered (l.step act) (confirmed ++ (confirmation? (l, act)).toList)
      (failed ++ (failure? (l, act)).toList))
    (hreverse : ∀ m ∈ made, failure? (l, act) = some m.number →
      ∀ m' ∈ made, m.number < m'.number → m'.number ∈ failed)
    (heffect : FlagEffect flag id l act (lastTarget before (standing made failed))) :
    Stacked flag id (l.step act) before (made ++ (made? flag id (l, act)).toList)
      (failed ++ (failure? (l, act)).toList) := by
  cases heffect with
  | unconcerned hmade hwrite hvalue hpending =>
    -- A change that stands is confirmed or pending, so it is not the one that fails now, if any.
    have hstanding : standing made (failed ++ (failure? (l, act)).toList) =
        standing made failed := by
      cases hfailed : failure? (l, act) with
      | none => simp
      | some number =>
        rw [Option.toList_some, standing_concat]
        refine List.filter_eq_self.mpr fun m hm => decide_eq_true fun heq => ?_
        obtain ⟨hm, hnot⟩ := List.mem_filter.mp hm
        have hmem : m.number ∈ failed ++ (failure? (l, act)).toList := by simp [hfailed, heq]
        rcases haccounted.status m hm with hconf | hfail | ⟨p, hp, hpm⟩
        · exact hanswered.disjoint _ (List.mem_append_left _ hconf) hmem
        · simp [hfail] at hnot
        · rw [← hpending] at hp
          exact hanswered.not_failed p (mem_pendingFor.mp hp).1 (hpm ▸ hmem)
    rw [hmade, Option.toList_none, List.append_nil]
    refine ⟨by rw [hstanding]; exact hvalue, fun p hp => ?_⟩
    rw [hstanding]
    exact h.pending p (hpending ▸ hp)
  | made pending hnumber hfailed hmade hwrite hvalue hpending hbefore =>
    have hmem : pending ∈ (l.step act).pendingFor flag id := by simp [hpending]
    have hnew : pending.made.number ∉ failed := fun hfail =>
      hanswered.not_failed pending (mem_pendingFor.mp hmem).1 (List.mem_append_left _ hfail)
    have hstanding : standing (made ++ [pending.made]) failed =
        standing made failed ++ [pending.made] := by
      simp [standing, hnew]
    rw [hmade, hfailed, Option.toList_none, Option.toList_some, List.append_nil]
    refine ⟨?_, fun p hp => ?_⟩ <;> rw [hstanding]
    · rw [lastTarget_concat]
      exact hvalue
    · rw [hpending] at hp
      rcases List.mem_append.mp hp with hold | hp
      · obtain ⟨below, above, hsplit, hremembered⟩ := h.pending p hold
        exact ⟨below, above ++ [pending.made], by simp [hsplit], hremembered⟩
      · obtain rfl := List.mem_singleton.mp hp
        refine ⟨standing made failed, [], rfl, ?_⟩
        rw [hbefore]
        split
        · next hsame => exact hsame.symm
        · rfl
  | confirmed pending hmem hconfirmed hfailed hmade hwrite hvalue hpending =>
    rw [hmade, hfailed, Option.toList_none, Option.toList_none, List.append_nil, List.append_nil]
    refine ⟨hvalue, fun p hp => h.pending p ?_⟩
    rw [hpending] at hp
    exact List.mem_of_mem_filter hp
  | failed pending hmem hfailed hmade hwrite hvalue hpending =>
    obtain ⟨below, above, hsplit, hremembered⟩ := h.pending pending hmem
    have hsorted : (below ++ pending.made :: above).Pairwise fun m m' => m.number < m'.number :=
      hsplit ▸ haccounted.sorted.sublist List.filter_sublist
    rw [List.pairwise_append, List.pairwise_cons] at hsorted
    obtain ⟨-, ⟨habove, -⟩, hbelow⟩ := hsorted
    have hstands : ∀ m ∈ below ++ pending.made :: above, m ∈ made ∧ m.number ∉ failed := by
      intro m hm
      obtain ⟨hm, hnot⟩ := List.mem_filter.mp (hsplit ▸ hm)
      exact ⟨hm, of_decide_eq_true hnot⟩
    -- Nothing stands above the change that fails.
    obtain rfl : above = [] := by
      refine List.eq_nil_iff_forall_not_mem.mpr fun m hm => ?_
      obtain ⟨hmade', hnot⟩ := hstands m (by simp [hm])
      exact hnot (hreverse pending.made (hstands _ (by simp)).1 hfailed m hmade' (habove m hm))
    have hstanding : standing made (failed ++ [pending.number]) = below := by
      rw [standing_concat, hsplit, List.filter_append]
      have hkept : below.filter (fun m => m.number ≠ pending.number) = below := by
        refine List.filter_eq_self.mpr fun m hm => decide_eq_true ?_
        exact Nat.ne_of_lt (hbelow m hm pending.made (List.mem_singleton.mpr rfl))
      rw [hkept]
      simp [PendingChange.made]
    rw [hmade, hfailed, Option.toList_none, Option.toList_some, List.append_nil]
    refine ⟨?_, fun p hp => ?_⟩ <;> rw [hstanding]
    · rw [hvalue, ← hremembered, hsplit, lastTarget_concat]
      rfl
    · simp only [hpending, List.mem_filter, decide_eq_true_eq] at hp
      obtain ⟨hp, hne⟩ := hp
      obtain ⟨below', above', hsplit', hremembered'⟩ := h.pending p hp
      -- It stands below the change that fails, since it is another one.
      rw [hsplit] at hsplit'
      rcases List.eq_nil_or_concat above' with rfl | ⟨above₁, m, rfl⟩
      · have heq := (List.append_inj' hsplit' rfl).2
        simp only [PendingChange.made, List.cons.injEq, Made.mk.injEq] at heq
        exact absurd heq.1.1.symm hne
      · refine ⟨below', above₁, ?_, hremembered'⟩
        rw [List.concat_eq_append, ← List.cons_append, ← List.append_assoc] at hsplit'
        exact (List.append_inj' hsplit' rfl).1

/-! ### Where flags settle -/

theorem accounted_run (hl : Reachable l) {acts : List Act}
    (hacts : ∀ act ∈ acts, act.movesFlagsOnly = true)
    (hbefore : l.collection.flag? flag id = some before) :
    Accounted flag id (l.run acts) (l.changesOf flag id acts) (l.confirmations acts)
        (l.failures acts) ∧
      Written flag id (l.run acts) before (l.changesOf flag id acts) (l.writesOf flag id acts)
        (l.confirmations acts) := by
  induction acts using List.reverseRecOn with
  | nil =>
    refine ⟨⟨?_, ?_, ?_⟩, ⟨hbefore, ?_, ?_⟩⟩ <;>
      simp [changesOf, writesOf, history]
  | append_singleton acts act ih =>
    obtain ⟨hacts, hact⟩ := List.forall_mem_append.mp hacts
    obtain ⟨haccounted, hwritten⟩ := ih hacts
    have hreachable := hl.run acts
    have heffect := flagEffect hreachable (hact act (List.mem_singleton.mpr rfl)) hwritten.value
    rw [run_append, changesOf, writesOf, confirmations, failures, filterMap_history_concat,
      filterMap_history_concat, filterMap_history_concat, filterMap_history_concat]
    exact ⟨haccounted.step (hreachable.step act).ledger heffect,
      hwritten.step hreachable.ledger heffect⟩

theorem stacked_run (hl : Reachable l) (hstart : l.currentChanges = []) {acts : List Act}
    (hacts : ∀ act ∈ acts, act.movesFlagsOnly = true)
    (hbefore : l.collection.flag? flag id = some before)
    (hreverse : l.FailsInReverse flag id acts) :
    Stacked flag id (l.run acts) before (l.changesOf flag id acts) (l.failures acts) := by
  induction acts using List.reverseRecOn with
  | nil =>
    have hnone : l.pendingFor flag id = [] := by rw [pendingFor, hstart, List.filter_nil]
    exact ⟨hbefore, by simp [hnone]⟩
  | append_singleton acts act ih =>
    obtain ⟨hacts, hact⟩ := List.forall_mem_append.mp hacts
    have hstacked := ih hacts hreverse.of_append
    have heffect :=
      flagEffect (hl.run acts) (hact act (List.mem_singleton.mpr rfl)) hstacked.value
    have hanswered := answered_run hl (acts ++ [act])
    rw [run_append, confirmations, failures, filterMap_history_concat, filterMap_history_concat]
      at hanswered
    rw [run_append, changesOf, failures, filterMap_history_concat, filterMap_history_concat]
    exact hstacked.step (accounted_run hl hacts hbefore).1 hanswered
      (hreverse acts act [] rfl) heffect

/-- **Where flags settle.** From a moment when no change of the stream is pending, the user changes
flags and the server answers, in any order and with any results, until no change is pending
again. A flag then has the value that was written to it last. It has the value that the server
accepted **exactly if** the last that was written is not a value given back which differs from
that one, and certainly if changes fail in the reverse order in which they were made. -/
theorem flags_settle (hl : Reachable l) (hstart : l.currentChanges = []) {acts : List Act}
    (hacts : ∀ act ∈ acts, act.movesFlagsOnly = true) (hend : (l.run acts).currentChanges = [])
    (hbefore : l.collection.flag? flag id = some before) :
    let writes := l.writesOf flag id acts
    let server := accepted before (l.changesOf flag id acts) (l.confirmations acts)
    (l.run acts).collection.flag? flag id = some (lastWritten before writes) ∧
      ((l.run acts).collection.flag? flag id = some server ↔
        ∀ number value, writes.getLast? = some (.takeBack number value) → value = server) ∧
      (l.FailsInReverse flag id acts →
        (l.run acts).collection.flag? flag id = some server) := by
  intro writes server
  obtain ⟨haccounted, hwritten⟩ := accounted_run hl hacts hbefore
  have hnone : (l.run acts).pendingFor flag id = [] := by rw [pendingFor, hend, List.filter_nil]
  refine ⟨hwritten.value, ?_, fun hreverse => ?_⟩
  · rw [hwritten.value, Option.some.injEq]
    constructor
    · intro hserver number value hlast
      rw [← hserver, lastWritten, hlast]
      rfl
    · intro hback
      cases hlast : writes.getLast? with
      | none =>
        -- Nothing was written, so every change wanted what was there.
        have hall := hwritten.untouched (List.getLast?_eq_none_iff.mp hlast)
        have hserver : server = before := lastTarget_eq_of_forall
          (fun m hm => hall m (List.mem_of_mem_filter hm)) fun _ => rfl
        rw [hserver, lastWritten, hlast]
        rfl
      | some write =>
        cases write with
        | takeBack number value =>
          rw [lastWritten, hlast, ← hback number value hlast]
          rfl
        | change m =>
          -- Nothing is pending, so the change was confirmed, and those after it do not differ.
          obtain ⟨earlier, later, hmade, hlater, hstatus⟩ := hwritten.changed m hlast
          have hconfirmed : m.number ∈ l.confirmations acts := by
            rcases hstatus with hconf | ⟨p, hp, -⟩
            · exact hconf
            · rw [hnone] at hp
              cases hp
          have hserver : server = m.target := by
            have hsplit : (l.changesOf flag id acts).filter
                (fun made => made.number ∈ l.confirmations acts) =
                earlier.filter (fun made => made.number ∈ l.confirmations acts) ++
                  (m :: later.filter fun made => made.number ∈ l.confirmations acts) := by
              rw [hmade, List.filter_append, List.filter_cons_of_pos (by simpa using hconfirmed)]
            change lastTarget before _ = m.target
            rw [hsplit, lastTarget_append]
            refine lastTarget_eq_of_forall (List.forall_mem_cons.mpr ⟨rfl, fun m' hm' => ?_⟩)
              fun hnil => absurd hnil (List.cons_ne_nil _ _)
            exact hlater m' (List.mem_of_mem_filter hm')
          rw [hserver, lastWritten, hlast]
          rfl
  · have hstacked := stacked_run hl hstart hacts hbefore hreverse
    have hanswered := answered_run hl acts
    rw [hstacked.value]
    refine congrArg some (congrArg (lastTarget before) (List.filter_congr fun m hm => ?_))
    rcases haccounted.status m hm with hconf | hfail | ⟨p, hp, -⟩
    · simp [hconf, hanswered.disjoint _ hconf]
    · have hnot : m.number ∉ l.confirmations acts := fun hconf => hanswered.disjoint _ hconf hfail
      simp [hfail, hnot]
    · rw [hnone] at hp
      cases hp

/-- A loader that holds one story, which has not been read. -/
def oneUnread : Loader :=
  (Loader.new { source := .feed 1 } {} 2).run
    [.reset { source := .feed 1 }, .requestPage,
      .complete (.page ⟨1, { source := .feed 1 }, 1⟩
        (.ok [{ id := ⟨"1:a"⟩, feedId := 1, title := "" }]))]

theorem reachable_oneUnread : Reachable oneUnread := (Reachable.new _ _ _).run _

/-- The story is marked read and unread again. The second change fails, and then the first is
confirmed. -/
theorem flags_settle_oneUnread :
    oneUnread.currentChanges = [] ∧ oneUnread.collection.flag? .read ⟨"1:a"⟩ = some false ∧
      (oneUnread.run [.mark .markRead ⟨"1:a"⟩, .mark .markUnread ⟨"1:a"⟩,
        .complete (.flag 1 (.error .timeout)), .complete (.flag 0 (.ok ()))]).collection.flag?
          .read ⟨"1:a"⟩ = some true := by
  have hstart : oneUnread.currentChanges = [] := by decide
  have hbefore : oneUnread.collection.flag? .read ⟨"1:a"⟩ = some false := by decide
  exact ⟨hstart, hbefore,
    (flags_settle reachable_oneUnread hstart (by decide) (by decide) hbefore).1.trans (by decide)⟩

/-- **Flags do not always settle.** The story is marked read and unread again, and both changes
fail, the first one first: the second gives the flag the value back that it had between them. -/
theorem not_forall_flags_settle :
    ¬∀ (l : Loader) (acts : List Act), Reachable l → l.currentChanges = [] →
      (∀ act ∈ acts, act.movesFlagsOnly = true) → (l.run acts).currentChanges = [] →
      ∀ flag id before, l.collection.flag? flag id = some before →
        (l.run acts).collection.flag? flag id =
          some (accepted before (l.changesOf flag id acts) (l.confirmations acts)) := by
  intro h
  have hwrong := h oneUnread
    [.mark .markRead ⟨"1:a"⟩, .mark .markUnread ⟨"1:a"⟩,
      .complete (.flag 0 (.error .timeout)), .complete (.flag 1 (.error .timeout))]
    reachable_oneUnread (by decide) (by decide) (by decide) .read ⟨"1:a"⟩ false (by decide)
  exact absurd hwrong (by decide)

end Loader

end FeedReader
