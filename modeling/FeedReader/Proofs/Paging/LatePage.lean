import FeedReader.Proofs.Paging.FlagTurn
import FeedReader.Proofs.Paging.Settling

/-!
# Pages that were written before a flag change

The server may have written a page before it heard of a flag change. As long as the change is
pending it is put on top of the page, and it should make no difference whether the page arrives
first or the server's answer. **It does make one**: when the change has been confirmed it is
pending no more, and a page that arrives then brings the old flag back.

What is true is said by `FeedReader.Loader.flag_after_confirmation`. After a change that is not
followed by another change of the same flag,

* the flag has the value that it was *set* to last, be it by a page or by an older change that is
  taken back, and the target of the change if nothing set it;
* if no older change of the flag was pending, only the pages count that **arrive after the
  confirmation**: the flag is as the last of them says that brings the story, and has the target
  of the change if none of them does.
-/

namespace FeedReader

namespace Loader

open Collection

/-- The value to which an act sets a flag, if it sets it: a page does so by the copy that it
brings, unless a change holds the flag. -/
def setTo? (flag : Flag) (id : StoryId) (pair : Loader × Act) : Option Bool :=
  match merge? pair with
  | some merge => (pair.1.heldAt? flag id).or ((lastCopy? id merge.stories).map flag.get)
  | none => (write? flag id pair).map Write.value

/-- The values to which a flag is set in a run, in order. -/
def settingsOf (l : Loader) (flag : Flag) (id : StoryId) (acts : List Act) : List Bool :=
  (l.history acts).filterMap (setTo? flag id)

variable {l : Loader} {flag : Flag} {id : StoryId} {act : Act} {value : Bool}

/-- **A flag has the value to which an act sets it**, or else the value that it had. -/
theorem setTo?_step (hl : Reachable l) (hact : act.isReset = false)
    (hpage : (l.step act).fetch.page ≠ 0)
    (hvalue : (l.step act).collection.flag? flag id = some value) :
    setTo? flag id (l, act) = some value ∨
      (setTo? flag id (l, act) = none ∧ l.fetch.page ≠ 0 ∧
        l.collection.flag? flag id = some value) := by
  have hkept : merge? (l, act) = none → l.fetch.page ≠ 0 :=
    fun hmerge => (step_unmerged hl hact hmerge).page ▸ hpage
  cases flagTurn flag id hl hact with
  | kept hmerge hwrite hvalue' hholders =>
    rw [hvalue' (hkept hmerge)] at hvalue
    exact .inr ⟨by rw [setTo?, hmerge, hwrite]; rfl, hkept hmerge, hvalue⟩
  | changed pending hnumber hmerge hwrite hvalue' hholders =>
    refine .inl ?_
    rw [setTo?, hmerge, hwrite, ← hvalue, hvalue']
    rfl
  | confirmed pending hmem hact' hmerge hwrite hvalue' hholders =>
    rw [hvalue'] at hvalue
    exact .inr ⟨by rw [setTo?, hmerge, hwrite]; rfl, hkept hmerge, hvalue⟩
  | takenBack pending hmem back hact' hmerge hwrite hvalue' hholders =>
    obtain ⟨before, -, rfl⟩ := Option.map_eq_some_iff.mp (hvalue'.symm.trans hvalue)
    refine .inl ?_
    rw [setTo?, hmerge, hwrite]
    rfl
  | merged merge hmerge hwrite hvalue' hholders =>
    obtain ⟨brought, hbrought, rfl⟩ := Option.map_eq_some_iff.mp (hvalue'.symm.trans hvalue)
    have hset : setTo? flag id (l, act) =
        (l.heldAt? flag id).or ((lastCopy? id merge.stories).map flag.get) := by
      rw [setTo?, hmerge]
    rw [hset]
    cases hheld : l.heldAt? flag id with
    | some target => exact .inl rfl
    | none =>
      rcases Option.or_eq_some_iff.mp hbrought with hcopy | ⟨hnone, hbefore⟩
      · exact .inl hcopy
      · exact .inr ⟨hnone, flag?_paged.mp hbefore⟩

theorem settingsOf_concat (l : Loader) (flag : Flag) (id : StoryId) (acts : List Act) (act : Act) :
    l.settingsOf flag id (acts ++ [act]) =
      l.settingsOf flag id acts ++ (setTo? flag id (l.run acts, act)).toList :=
  filterMap_history_concat (setTo? flag id) l acts act

/-- **A flag has the value to which it was set last.** -/
theorem settingsOf_run (hl : Reachable l) {acts : List Act}
    (hacts : ∀ act ∈ acts, act.isReset = false) (hpage : (l.run acts).fetch.page ≠ 0)
    (hvalue : (l.run acts).collection.flag? flag id = some value) :
    (l.settingsOf flag id acts).getLast? = some value ∨
      (l.settingsOf flag id acts = [] ∧ l.fetch.page ≠ 0 ∧
        l.collection.flag? flag id = some value) := by
  induction acts using List.reverseRecOn with
  | nil => exact .inr ⟨rfl, hpage, hvalue⟩
  | append_singleton acts act ih =>
    obtain ⟨hacts, hact⟩ := List.forall_mem_append.mp hacts
    rw [run_append] at hpage hvalue
    rw [settingsOf_concat]
    -- If the last act does not set the flag, the acts before it have left it as it is.
    rcases setTo?_step (hl.run acts) (hact act (List.mem_singleton.mpr rfl)) hpage hvalue with
      hset | ⟨hnone, hpage', hbefore⟩
    · refine .inl ?_
      rw [hset]
      simp
    · rw [hnone, Option.toList_none, List.append_nil]
      exact ih hacts hpage' hbefore

/-! ### One change -/

/-- A change is the only one that holds a flag, and the flag is where the change wants it. -/
structure HeldBy (flag : Flag) (id : StoryId) (pending : PendingChange) (l : Loader) : Prop where
  holders : l.holders flag id = [pending]
  value : l.fetch.page ≠ 0 → ∀ value, l.collection.flag? flag id = some value →
    value = pending.change.target

/-- Nothing holds a flag. It is as some pages say that were merged, and has a certain value if they
do not bring the story. -/
structure LeftTo (flag : Flag) (id : StoryId) (target : Bool) (l : Loader) (merges : List Merge) :
    Prop where
  holders : l.holders flag id = []
  value : l.fetch.page ≠ 0 → ∀ value, l.collection.flag? flag id = some value →
    value = ((lastCopy? id (received merges)).map flag.get).getD target

variable {pending : PendingChange} {merges : List Merge} {target : Bool} {acts : List Act}

theorem HeldBy.step (h : HeldBy flag id pending l) (hl : Reachable l) (hact : act.isReset = false)
    (hunchanged : ∀ made, write? flag id (l, act) ≠ some (.change made))
    (hconf : confirmation? (l, act) ≠ some pending.number)
    (hfail : failure? (l, act) ≠ some pending.number) : HeldBy flag id pending (l.step act) := by
  have honly : ∀ p ∈ l.holders flag id, p = pending := fun p hp =>
    List.mem_singleton.mp (h.holders ▸ hp)
  cases flagTurn flag id hl hact with
  | kept hmerge hwrite hvalue hholders =>
    refine ⟨hholders.trans h.holders, fun hpage => ?_⟩
    have hpage' : l.fetch.page ≠ 0 := (step_unmerged hl hact hmerge).page ▸ hpage
    rw [hvalue hpage']
    exact h.value hpage'
  | changed p hnumber hmerge hwrite hvalue hholders => exact absurd hwrite (hunchanged p.made)
  | confirmed p hmem hact' hmerge hwrite hvalue hholders =>
    obtain rfl := honly p hmem
    rw [hact'] at hconf
    exact absurd (confirmation?_of_pending
      (hl.ledger.pendingChange?_of_mem (mem_holders.mp hmem).1)) hconf
  | takenBack p hmem back hact' hmerge hwrite hvalue hholders =>
    obtain rfl := honly p hmem
    obtain ⟨cause, rfl⟩ := hact'
    exact absurd (failure?_of_pending
      (hl.ledger.pendingChange?_of_mem (mem_holders.mp hmem).1) cause) hfail
  | merged merge hmerge hwrite hvalue hholders =>
    refine ⟨hholders.trans h.holders, fun _ value hvalue' => ?_⟩
    have hheld : l.heldAt? flag id = some pending.change.target := by
      rw [heldAt?, h.holders]
      rfl
    rw [hvalue, hheld] at hvalue'
    obtain ⟨-, -, rfl⟩ := Option.map_eq_some_iff.mp hvalue'
    rfl

/-- As long as the change is pending, no page gets at the flag. -/
theorem HeldBy.run (h : HeldBy flag id pending l) (hl : Reachable l)
    (hacts : ∀ act ∈ acts, act.isReset = false)
    (hunchanged : ∀ made, .change made ∉ l.writesOf flag id acts)
    (hconf : pending.number ∉ l.confirmations acts) (hfail : pending.number ∉ l.failures acts) :
    HeldBy flag id pending (l.run acts) := by
  induction acts using List.reverseRecOn with
  | nil => exact h
  | append_singleton acts act ih =>
    obtain ⟨hacts, hact⟩ := List.forall_mem_append.mp hacts
    simp only [writesOf, confirmations, failures, filterMap_history_concat, List.mem_append,
      not_or, Option.mem_toList] at hunchanged hconf hfail
    rw [run_append]
    exact (ih hacts (fun made => (hunchanged made).1) hconf.1 hfail.1).step (hl.run acts)
      (hact act (List.mem_singleton.mpr rfl)) (fun made => (hunchanged made).2) hconf.2 hfail.2

/-- When the change is confirmed, the flag is left to the pages. -/
theorem HeldBy.confirmed (h : HeldBy flag id pending l) (hl : Reachable l)
    (hconf : confirmation? (l, act) = some pending.number) :
    LeftTo flag id pending.change.target (l.step act) [] := by
  obtain ⟨p, hfind, hnumber, rfl⟩ := confirmation?_eq_some hconf
  have hmem : pending ∈ l.holders flag id := h.holders ▸ List.mem_singleton.mpr rfl
  obtain rfl := hl.ledger.eq_of_number (List.mem_of_find?_eq_some hfind)
    (mem_holders.mp hmem).1 hnumber
  have hplace := l.samePlace_complete_flag p.number (.ok ())
  refine ⟨?_, fun hpage => ?_⟩
  · refine (holders_answered hplace.generation
      (l.pendingChanges_complete_flag hfind (.ok ())).1).trans ?_
    rw [h.holders]
    simp
  · have hcollection : (l.step (.complete (.flag p.number (.ok ())))).collection =
        l.collection := by
      rw [Loader.step, l.complete_flag_of_ok hfind]
      split <;> rfl
    rw [hcollection]
    exact h.value (hplace.unmerged.page ▸ hpage)

theorem received_append (merges merges' : List Merge) :
    received (merges ++ merges') = received merges ++ received merges' :=
  List.flatMap_append

theorem LeftTo.step (h : LeftTo flag id target l merges) (hl : Reachable l)
    (hact : act.isReset = false)
    (hunchanged : ∀ made, write? flag id (l, act) ≠ some (.change made)) :
    LeftTo flag id target (l.step act) (merges ++ (merge? (l, act)).toList) := by
  have hnone : ∀ p, p ∉ l.holders flag id := fun p hp => by
    rw [h.holders] at hp
    cases hp
  cases flagTurn flag id hl hact with
  | kept hmerge hwrite hvalue hholders =>
    rw [hmerge, Option.toList_none, List.append_nil]
    refine ⟨hholders.trans h.holders, fun hpage => ?_⟩
    have hpage' : l.fetch.page ≠ 0 := (step_unmerged hl hact hmerge).page ▸ hpage
    rw [hvalue hpage']
    exact h.value hpage'
  | changed p hnumber hmerge hwrite hvalue hholders => exact absurd hwrite (hunchanged p.made)
  | confirmed p hmem hact' hmerge hwrite hvalue hholders => exact absurd hmem (hnone p)
  | takenBack p hmem back hact' hmerge hwrite hvalue hholders => exact absurd hmem (hnone p)
  | merged merge hmerge hwrite hvalue hholders =>
    rw [hmerge, Option.toList_some]
    refine ⟨hholders.trans h.holders, fun _ value hvalue' => ?_⟩
    rw [flag?_step_merged_of_free hl hmerge h.holders] at hvalue'
    rw [received_append, lastCopy?_append]
    have hreceived : received [merge] = merge.stories := by simp [received]
    rw [hreceived]
    cases hlast : lastCopy? id merge.stories with
    | some copy =>
      rw [hlast] at hvalue'
      exact (Option.some.inj hvalue').symm
    | none =>
      rw [hlast] at hvalue'
      obtain ⟨hpage, hbefore⟩ := flag?_paged.mp hvalue'
      exact h.value hpage value hbefore

theorem LeftTo.run (h : LeftTo flag id target l merges) (hl : Reachable l)
    (hacts : ∀ act ∈ acts, act.isReset = false)
    (hunchanged : ∀ made, .change made ∉ l.writesOf flag id acts) :
    LeftTo flag id target (l.run acts) (merges ++ l.merges acts) := by
  induction acts using List.reverseRecOn with
  | nil =>
    rw [Loader.merges, history, List.filterMap_nil, List.append_nil]
    exact h
  | append_singleton acts act ih =>
    obtain ⟨hacts, hact⟩ := List.forall_mem_append.mp hacts
    simp only [writesOf, filterMap_history_concat, List.mem_append, not_or, Option.mem_toList]
      at hunchanged
    rw [run_append, merges_concat, ← List.append_assoc]
    exact (ih hacts fun made => (hunchanged made).1).step (hl.run acts)
      (hact act (List.mem_singleton.mpr rfl)) fun made => (hunchanged made).2

/-! ### After the confirmation -/

/-- **A flag after a change of it has been confirmed**, if no other change of it was made since.
It has the value to which it was set last, and that of the change if nothing set it. If no older
change of the flag was pending when the change was made, this is what the last copy of the story
says that a page has brought since the confirmation: pages that arrived before it do not count,
whenever they were asked for. -/
theorem flag_after_confirmation (hl : Reachable l) {act₀ conf : Act} {acts₁ acts₂ : List Act}
    {made : Made} (hmade : write? flag id (l, act₀) = some (.change made))
    (hconf : confirmation? ((l.step act₀).run acts₁, conf) = some made.number)
    (hacts : ∀ act ∈ acts₁ ++ conf :: acts₂, act.isReset = false)
    (hlast : ∀ later, .change later ∉ (l.step act₀).writesOf flag id (acts₁ ++ conf :: acts₂))
    (hpage : ((l.step act₀).run (acts₁ ++ conf :: acts₂)).fetch.page ≠ 0)
    (hvalue : ((l.step act₀).run (acts₁ ++ conf :: acts₂)).collection.flag? flag id = some value) :
    value = ((l.step act₀).settingsOf flag id (acts₁ ++ conf :: acts₂)).getLast?.getD made.target ∧
      (l.holders flag id = [] →
        value = ((lastCopy? id (received
          (((l.step act₀).run (acts₁ ++ [conf])).merges acts₂))).map flag.get).getD
            made.target) := by
  have hact₀ : act₀.isReset = false := by
    cases act₀ with
    | reset context => cases hmade
    | _ => rfl
  have hchanged : Reachable (l.step act₀) := hl.step act₀
  obtain ⟨pending, rfl, hset, hholders⟩ := exists_holders_concat hl hact₀ hmade
  constructor
  · rcases settingsOf_run hchanged hacts hpage hvalue with hsome | ⟨hnil, -, hbefore⟩
    · rw [hsome]
      rfl
    · rw [hnil]
      exact Option.some.inj (hbefore.symm.trans hset)
  · intro hfree
    have hheld : HeldBy flag id pending (l.step act₀) :=
      ⟨by rw [hholders, hfree]; rfl,
        fun _ value hvalue => Option.some.inj (hvalue.symm.trans hset)⟩
    -- The confirmation parts the run: up to it the change holds the flag, and from it on nothing.
    rw [List.append_cons] at hacts hpage hvalue
    obtain ⟨hacts₁, hacts₂⟩ := List.forall_mem_append.mp hacts
    simp only [List.append_cons acts₁ conf acts₂, writesOf, filterMap_history_append,
      List.mem_append, not_or] at hlast
    obtain ⟨hconf₁, hfail₁⟩ := not_mem_of_confirmation? hchanged hconf
    have hconfirmed := (hheld.run hchanged (List.forall_mem_append.mp hacts₁).1
      (fun later => (hlast later).1.1) hconf₁ hfail₁).confirmed (hchanged.run acts₁) hconf
    have hleft : LeftTo flag id pending.change.target ((l.step act₀).run (acts₁ ++ [conf])) [] := by
      rw [run_append]
      exact hconfirmed
    rw [run_append] at hpage hvalue
    exact (hleft.run (hchanged.run _) hacts₂ fun later => (hlast later).2).value hpage value hvalue

/-- A loader that has a story and waits for the second page. -/
def awaitingPage : Loader :=
  (Loader.new { source := .feed 1 } {} 1).run
    [.reset { source := .feed 1 }, .requestPage,
      .complete (.page ⟨1, { source := .feed 1 }, 1⟩
        (.ok [{ id := ⟨"1:a"⟩, feedId := 1, title := "" }])),
      .requestPage]

theorem reachable_awaitingPage : Reachable awaitingPage := (Reachable.new _ _ _).run _

/-- The second page, which was written when the story had not been read. -/
def latePage : Act :=
  .complete (.page ⟨1, { source := .feed 1 }, 2⟩
    (.ok [{ id := ⟨"1:b"⟩, feedId := 1, title := "" },
      { id := ⟨"1:a"⟩, feedId := 1, title := "" }]))

/-- The page arrives before the confirmation. No page arrives after it, and the story stays
read. -/
theorem flag_after_confirmation_awaitingPage :
    let confirmed := Act.complete (.flag 0 (.ok ()))
    let changed := awaitingPage.step (.mark .markRead ⟨"1:a"⟩)
    write? .read ⟨"1:a"⟩ (awaitingPage, .mark .markRead ⟨"1:a"⟩) = some (.change ⟨0, true⟩) ∧
      confirmation? (changed.run [latePage], confirmed) = some 0 ∧
      (changed.run [latePage, confirmed]).collection.flag? .read ⟨"1:a"⟩ = some true ∧
      awaitingPage.holders .read ⟨"1:a"⟩ = [] ∧
      true = ((lastCopy? ⟨"1:a"⟩ (received
        ((changed.run ([latePage] ++ [confirmed])).merges []))).map Flag.read.get).getD true := by
  have hmade : write? .read ⟨"1:a"⟩ (awaitingPage, .mark .markRead ⟨"1:a"⟩) =
      some (.change ⟨0, true⟩) := by
    decide +kernel
  have hconf : confirmation? ((awaitingPage.step (.mark .markRead ⟨"1:a"⟩)).run [latePage],
      .complete (.flag 0 (.ok ()))) = some 0 := by
    decide +kernel
  have hvalue : ((awaitingPage.step (.mark .markRead ⟨"1:a"⟩)).run
      [latePage, .complete (.flag 0 (.ok ()))]).collection.flag? .read ⟨"1:a"⟩ = some true := by
    decide +kernel
  have hfree : awaitingPage.holders .read ⟨"1:a"⟩ = [] := by decide +kernel
  have hwrites : (awaitingPage.step (.mark .markRead ⟨"1:a"⟩)).writesOf .read ⟨"1:a"⟩
      [latePage, .complete (.flag 0 (.ok ()))] = [] := by
    decide +kernel
  exact ⟨hmade, hconf, hvalue, hfree,
    (flag_after_confirmation reachable_awaitingPage hmade hconf (by decide)
      (fun _ => hwrites ▸ List.not_mem_nil) (by decide +kernel) hvalue).2 hfree⟩

/-- **A page that arrives after the confirmation undoes the change.** The page was asked for before
the story was marked read, and has it unread. -/
theorem not_forall_flag_after_confirmation :
    ¬∀ (l : Loader) (act₀ : Act) (acts : List Act) (flag : Flag) (id : StoryId) (made : Made)
      (ticket : Ticket), Reachable l → ticket ∈ l.pendingPages → l.expects ticket = true →
      write? flag id (l, act₀) = some (.change made) → (∀ act ∈ acts, act.isReset = false) →
      made.number ∈ (l.step act₀).confirmations acts → (l.step act₀).changesOf flag id acts = [] →
      (∃ merge ∈ (l.step act₀).merges acts, merge.ticket = ticket) →
        ∀ value, ((l.step act₀).run acts).collection.flag? flag id = some value →
          value = made.target := by
  intro h
  have hwrong := h awaitingPage (.mark .markRead ⟨"1:a"⟩)
    [.complete (.flag 0 (.ok ())), latePage] .read ⟨"1:a"⟩ ⟨0, true⟩
    ⟨1, { source := .feed 1 }, 2⟩ reachable_awaitingPage (by decide +kernel) (by decide +kernel)
    (by decide +kernel) (by decide +kernel) (by decide +kernel) (by decide +kernel)
    ⟨_, List.mem_singleton.mpr rfl, rfl⟩ false (by decide +kernel)
  cases hwrong

end Loader

end FeedReader
