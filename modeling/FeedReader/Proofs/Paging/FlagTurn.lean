import FeedReader.Proofs.Paging.FlagEffect
import FeedReader.Proofs.Paging.Merging

/-!
# A flag while pages arrive

A page brings the flags that the server had when it wrote the page, and the changes that are
pending are put on top of it. So a flag is *held* by the pending changes that have moved it, and
**the latest of these decides what it is after a page**; where none holds it, the page does.

`FeedReader.Loader.FlagTurn` lists what an act can do to a flag, to what holds it, and to both at
once. In contrast to `FeedReader.Loader.FlagEffect` it speaks of pages as well, and it does not
ask whether the story is there.
-/

namespace FeedReader

open Collection

/-- Whether a change has moved a flag of a story, and so remembers the value that it had before. -/
def PendingChange.holds (pending : PendingChange) (flag : Flag) (id : StoryId) : Bool :=
  pending.change.flag = flag && (valueFor? pending.targets id).isSome

namespace Collection

theorem flag?_merge (c : Collection) (batch : List Story) (flag : Flag) (id : StoryId) :
    (c.merge batch).flag? flag id = ((lastCopy? id batch).map flag.get).or (c.flag? flag id) := by
  rw [flag?, find?_merge, Option.map_or]
  rfl

theorem isSome_valueFor? {targets : List (StoryId × Bool)} {id : StoryId} :
    (valueFor? targets id).isSome = true ↔ id ∈ targets.map Prod.fst := by
  rw [Option.isSome_iff_ne_none, ne_eq, valueFor?_eq_none, List.mem_map]
  simp only [not_forall, not_not, exists_prop]

end Collection

theorem PendingChange.holds_iff {pending : PendingChange} {flag : Flag} {id : StoryId} :
    pending.holds flag id = true ↔
      pending.change.flag = flag ∧ id ∈ pending.targets.map Prod.fst := by
  rw [holds, Bool.and_eq_true, decide_eq_true_eq, isSome_valueFor?]

namespace Loader

/-- The pending changes that hold a flag of a story. -/
def holders (l : Loader) (flag : Flag) (id : StoryId) : List PendingChange :=
  l.currentChanges.filter fun pending => pending.holds flag id

/-- The value at which a flag is held, if it is. -/
def heldAt? (l : Loader) (flag : Flag) (id : StoryId) : Option Bool :=
  (l.holders flag id).getLast?.map fun pending => pending.change.target

theorem flag?_reapply (c : Collection) (pending : PendingChange) (flag : Flag) (id : StoryId) :
    (reapply c pending).flag? flag id =
      (c.flag? flag id).map fun value =>
        if pending.holds flag id then pending.change.target else value := by
  have htargets : pending.targets.map (fun target => (target.1, pending.change.target)) =
      (pending.targets.map Prod.fst).map fun id => (id, pending.change.target) := by
    rw [List.map_map]
    rfl
  rw [reapply_eq, flag?_setFlags, htargets, valueFor?_map]
  congr 1
  funext value
  simp only [PendingChange.holds_iff]
  by_cases hflag : pending.change.flag = flag
  · by_cases hid : id ∈ pending.targets.map Prod.fst <;> simp [hflag, hid]
  · simp [hflag]

/-- **Of the changes that are put on top of a collection, the last one that holds a flag
decides.** -/
theorem flag?_foldl_reapply (changes : List PendingChange) (c : Collection) (flag : Flag)
    (id : StoryId) :
    (changes.foldl reapply c).flag? flag id =
      (c.flag? flag id).map fun value =>
        ((changes.filter fun p => p.holds flag id).getLast?.map
          fun p => p.change.target).getD value := by
  induction changes using List.reverseRecOn with
  | nil => simp
  | append_singleton changes pending ih =>
    rw [List.foldl_append, List.foldl_cons, List.foldl_nil, flag?_reapply, ih, Option.map_map,
      List.filter_append]
    congr 1
    funext value
    cases hholds : pending.holds flag id <;> simp [hholds]

variable {l l' : Loader} {flag : Flag} {id : StoryId} {act : Act}

/-- Before the first page there is nothing that pages have brought. -/
theorem flag?_paged {value : Bool} :
    l.paged.flag? flag id = some value ↔
      l.fetch.page ≠ 0 ∧ l.collection.flag? flag id = some value := by
  rw [paged]
  split
  · next hpage => simp [hpage, flag?, Collection.find?]
  · next hpage => simp [hpage]

theorem flag?_step_merged (hl : Reachable l) {merge : Merge} (h : merge? (l, act) = some merge) :
    (l.step act).collection.flag? flag id =
      (((lastCopy? id merge.stories).map flag.get).or (l.paged.flag? flag id)).map
        (l.heldAt? flag id).getD := by
  rw [(step_merged hl h).collection, flag?_foldl_reapply, flag?_merge]
  rfl

/-- Where nothing holds a flag, the page decides, or else what the pages before it brought. -/
theorem flag?_step_merged_of_free (hl : Reachable l) {merge : Merge}
    (h : merge? (l, act) = some merge) (hfree : l.holders flag id = []) :
    (l.step act).collection.flag? flag id =
      ((lastCopy? id merge.stories).map flag.get).or (l.paged.flag? flag id) := by
  have hnone : l.heldAt? flag id = none := by
    rw [heldAt?, hfree]
    rfl
  rw [flag?_step_merged hl h, hnone]
  cases ((lastCopy? id merge.stories).map flag.get).or (l.paged.flag? flag id) <;> rfl

/-! ### What holds a flag -/

theorem mem_holders {pending : PendingChange} :
    pending ∈ l.holders flag id ↔
      pending ∈ l.pendingChanges ∧ pending.generation = l.generation ∧
        pending.holds flag id = true := by
  simp only [holders, currentChanges, List.mem_filter, decide_eq_true_eq, and_assoc]

theorem holders_congr (hgen : l'.generation = l.generation)
    (hchanges : l'.pendingChanges = l.pendingChanges) : l'.holders flag id = l.holders flag id := by
  rw [holders, holders, currentChanges, currentChanges, hgen, hchanges]

theorem holders_made {pending : PendingChange} (hgen : l'.generation = l.generation)
    (hcurrent : pending.generation = l.generation)
    (hchanges : l'.pendingChanges = l.pendingChanges ++ [pending]) :
    l'.holders flag id =
      l.holders flag id ++ if pending.holds flag id then [pending] else [] :=
  filter_currentChanges_made (fun pending => pending.holds flag id) hgen hcurrent hchanges

theorem holders_answered {number : Nat} (hgen : l'.generation = l.generation)
    (hchanges : l'.pendingChanges = (l.withoutChange number).pendingChanges) :
    l'.holders flag id = (l.holders flag id).filter fun p => p.number ≠ number :=
  filter_currentChanges_answered (fun pending => pending.holds flag id) hgen hchanges

/-- **What an act does to a flag and to what holds it.** Before the first page the cache may bring
a flag as well. -/
inductive FlagTurn (flag : Flag) (id : StoryId) (l : Loader) (act : Act) : Prop
  | kept
    (hmerge : merge? (l, act) = none)
    (hwrite : write? flag id (l, act) = none)
    (hvalue : l.fetch.page ≠ 0 →
      (l.step act).collection.flag? flag id = l.collection.flag? flag id)
    (hholders : (l.step act).holders flag id = l.holders flag id)
  | changed (pending : PendingChange) (hnumber : pending.number = l.nextNumber)
    (hmerge : merge? (l, act) = none)
    (hwrite : write? flag id (l, act) = some (.change pending.made))
    (hvalue : (l.step act).collection.flag? flag id = some pending.change.target)
    (hholders : (l.step act).holders flag id = l.holders flag id ++ [pending])
  | confirmed (pending : PendingChange) (hmem : pending ∈ l.holders flag id)
    (hact : act = .complete (.flag pending.number (.ok ())))
    (hmerge : merge? (l, act) = none)
    (hwrite : write? flag id (l, act) = none)
    (hvalue : (l.step act).collection.flag? flag id = l.collection.flag? flag id)
    (hholders : (l.step act).holders flag id =
      (l.holders flag id).filter fun p => p.number ≠ pending.number)
  | takenBack (pending : PendingChange) (hmem : pending ∈ l.holders flag id) (value : Bool)
    (hact : ∃ cause, act = .complete (.flag pending.number (.error cause)))
    (hmerge : merge? (l, act) = none)
    (hwrite : write? flag id (l, act) = some (.takeBack pending.number value))
    (hvalue : (l.step act).collection.flag? flag id =
      (l.collection.flag? flag id).map fun _ => value)
    (hholders : (l.step act).holders flag id =
      (l.holders flag id).filter fun p => p.number ≠ pending.number)
  | merged (merge : Merge)
    (hmerge : merge? (l, act) = some merge)
    (hwrite : write? flag id (l, act) = none)
    (hvalue : (l.step act).collection.flag? flag id =
      (((lastCopy? id merge.stories).map flag.get).or (l.paged.flag? flag id)).map
        (l.heldAt? flag id).getD)
    (hholders : (l.step act).holders flag id = l.holders flag id)

/-! ### Each act -/

theorem flagTurn_mark (change : FlagChange) (id' : StoryId) :
    FlagTurn flag id l (.mark change id') := by
  cases hfind : l.collection.find? id' with
  | none =>
    have h := l.mark_of_unknown change hfind
    exact .kept rfl (by simp [write?, made?, h]) (fun _ => by simp [step, h]) (by simp [step, h])
  | some story =>
    by_cases hset : change.get story = change.target
    · have h := l.mark_of_set hfind hset
      exact .kept rfl (by simp [write?, made?, h]) (fun _ => by simp [step, h])
        (by simp [step, h])
    · have h := l.mark_of_unset hfind hset
      obtain rfl : story.id = id' := id_of_find? hfind
      let pending : PendingChange :=
        ⟨l.nextNumber, l.generation, change, [(story.id, change.get story)]⟩
      have hholds : pending.holds flag id = true ↔ change.flag = flag ∧ story.id = id :=
        PendingChange.holds_iff.trans (and_congr_right' (List.mem_singleton.trans eq_comm))
      have hholders : (l.marked change story).holders flag id =
          l.holders flag id ++ if pending.holds flag id then [pending] else [] :=
        holders_made rfl rfl rfl
      by_cases hmoved : change.flag = flag ∧ story.id = id
      · have hvalue : l.collection.flag? flag id = some (flag.get story) := by
          rw [flag?, ← hmoved.2, hfind]
          rfl
        refine .changed pending rfl rfl ?_ ?_ ?_
        · rw [write?_mark hfind hset, if_pos hmoved]
          rfl
        · rw [step, h, flag?_marked, hvalue, Option.map_some, if_pos hmoved]
        · rw [step, h, hholders, if_pos (hholds.mpr hmoved)]
      · refine .kept rfl ?_ (fun _ => ?_) ?_
        · rw [write?_mark hfind hset, if_neg hmoved]
        · rw [step, h, flag?_marked]
          simp [hmoved]
        · rw [step, h, hholders, if_neg (mt hholds.mp hmoved), List.append_nil]

theorem flagTurn_markAllRead (hnodup : l.collection.ids.Nodup) :
    FlagTurn flag id l .markAllRead := by
  let pending : PendingChange :=
    ⟨l.nextNumber, l.generation, .markAllRead, l.collection.unreadIds.map fun id => (id, false)⟩
  have hholds : pending.holds flag id = true ↔ flag = .read ∧ id ∈ l.collection.unreadIds := by
    have hids : pending.targets.map Prod.fst = l.collection.unreadIds := by
      simp [pending, Function.comp_def]
    rw [PendingChange.holds_iff, hids]
    exact and_congr_left' eq_comm
  have hholders : (l.markAllRead.1).holders flag id =
      l.holders flag id ++ if pending.holds flag id then [pending] else [] := by
    rw [markAllRead_eq]
    exact holders_made rfl rfl rfl
  by_cases hmoved : flag = .read ∧ id ∈ l.collection.unreadIds
  · obtain ⟨value, hvalue⟩ : ∃ value, l.collection.flag? flag id = some value := by
      obtain ⟨story, hstory, rfl⟩ := List.mem_map.mp hmoved.2
      have hfind := find?_eq_some_of_mem hnodup (List.mem_of_mem_filter hstory)
      exact ⟨_, congrArg (Option.map flag.get) hfind⟩
    refine .changed pending rfl rfl ?_ ?_ ?_
    · rw [write?_markAllRead hnodup, if_pos hmoved]
      rfl
    · rw [step, flag?_markAllRead, hvalue, Option.map_some, if_pos hmoved]
      rfl
    · rw [step, hholders, if_pos (hholds.mpr hmoved)]
  · refine .kept rfl ?_ (fun _ => ?_) ?_
    · rw [write?_markAllRead hnodup, if_neg hmoved]
    · rw [step, flag?_markAllRead]
      simp [hmoved]
    · rw [step, hholders, if_neg (mt hholds.mp hmoved), List.append_nil]

variable (flag id)

theorem flagTurn_complete_flag (hledger : Ledger l) (number : Nat)
    (result : Except FetchError Unit) : FlagTurn flag id l (.complete (.flag number result)) := by
  cases hfind : l.pendingChange? number with
  | none =>
    have h := l.complete_flag_of_unknown hfind result
    refine .kept rfl ?_ (fun _ => by rw [step, h]) (by rw [step, h])
    cases result <;> simp [write?, made?, hfind]
  | some pending =>
    obtain rfl : pending.number = number := by simpa using List.find?_some hfind
    have hpending : pending ∈ l.pendingChanges := List.mem_of_find?_eq_some hfind
    have hholders : (l.step (.complete (.flag pending.number result))).holders flag id =
        (l.holders flag id).filter fun p => p.number ≠ pending.number :=
      holders_answered (l.samePlace_complete_flag pending.number result).generation
        (l.pendingChanges_complete_flag hfind result).1
    -- The answer to a change that does not hold the flag leaves those alone that do.
    have hothers : pending ∉ l.holders flag id →
        (l.holders flag id).filter (fun p => p.number ≠ pending.number) = l.holders flag id :=
      hledger.filter_number_ne (fun p hp => (mem_holders.mp hp).1) hpending
    cases result with
    | ok _ =>
      have hvalue : (l.step (.complete (.flag pending.number (.ok ())))).collection.flag? flag id =
          l.collection.flag? flag id := by
        rw [step, l.complete_flag_of_ok hfind]
        split <;> rfl
      by_cases hmem : pending ∈ l.holders flag id
      · exact .confirmed pending hmem rfl rfl rfl hvalue hholders
      · exact .kept rfl rfl (fun _ => hvalue) (hholders.trans (hothers hmem))
    | error cause =>
      by_cases hmem : pending ∈ l.holders flag id
      · obtain ⟨-, hcurrent, hholds⟩ := mem_holders.mp hmem
        obtain ⟨hflag, hid⟩ := PendingChange.holds_iff.mp hholds
        obtain ⟨value, hback⟩ := Option.isSome_iff_exists.mp (isSome_valueFor?.mpr hid)
        refine .takenBack pending hmem value ⟨cause, rfl⟩ rfl ?_ ?_ hholders
        · rw [write?_of_error hfind, if_pos ⟨hcurrent, hflag⟩, hback]
          rfl
        · rw [flag?_of_error hfind]
          simp only [hcurrent, hflag, hback, and_self, if_true, Option.getD_some]
      · have hnone : pending.generation = l.generation ∧ pending.change.flag = flag →
            valueFor? pending.targets id = none := by
          rintro ⟨hcurrent, hflag⟩
          refine Option.not_isSome_iff_eq_none.mp fun hsome => hmem (mem_holders.mpr ?_)
          exact ⟨hpending, hcurrent, PendingChange.holds_iff.mpr ⟨hflag, isSome_valueFor?.mp hsome⟩⟩
        refine .kept rfl ?_ (fun _ => ?_) (hholders.trans (hothers hmem))
        · rw [write?_of_error hfind]
          split
          · next h => rw [hnone h, Option.map_none]
          · rfl
        · rw [flag?_of_error hfind]
          split
          · next h => simp [hnone h]
          · simp

/-- **What an act of a stream does to a flag.** -/
theorem flagTurn (hl : Reachable l) (hact : act.isReset = false) : FlagTurn flag id l act := by
  cases hmerge : merge? (l, act) with
  | some merge =>
    have hmerged := step_merged hl hmerge
    refine .merged merge hmerge ?_ (flag?_step_merged hl hmerge)
      (holders_congr hmerged.generation hmerged.pendingChanges)
    obtain ⟨rfl, -, -⟩ := merge?_eq_some.mp hmerge
    rfl
  | none =>
    cases act with
    | reset context => cases hact
    | changeLevel level => exact .kept rfl rfl (fun _ => rfl) rfl
    | useCache cache => exact .kept rfl rfl (fun _ => rfl) rfl
    | mark change id' => exact flagTurn_mark change id'
    | markAllRead => exact flagTurn_markAllRead hl.nodup_ids
    | loadOffline =>
      refine .kept rfl rfl (fun hpage => ?_) ?_
      · rw [step, collection_loadOffline hl hpage]
      · rw [step, loadOffline_eq]
        rfl
    | requestPage =>
      cases hidle : l.fetch.isIdle with
      | false =>
        have h := l.requestPage_of_busy hidle
        exact .kept rfl rfl (fun _ => by rw [step, h]) (by rw [step, h])
      | true =>
        have h := l.requestPage_of_idle hidle
        exact .kept rfl rfl (fun _ => by rw [step, h]) (by rw [step, h]; rfl)
    | complete completion =>
      cases completion with
      | flag number result => exact flagTurn_complete_flag flag id hl.ledger number result
      | page ticket result =>
        have hrecord := l.sameRecord_complete_page ticket result
        refine .kept hmerge rfl (fun hpage => ?_)
          (holders_congr hrecord.generation hrecord.pendingChanges)
        rw [step, collection_complete_page hl hpage hmerge]

variable {flag id}

/-- A change that moves a flag holds it from then on, at the value that it wants. -/
theorem exists_holders_concat (hl : Reachable l) (hact : act.isReset = false) {made : Made}
    (h : write? flag id (l, act) = some (.change made)) :
    ∃ pending : PendingChange, pending.made = made ∧
      (l.step act).collection.flag? flag id = some pending.change.target ∧
      (l.step act).holders flag id = l.holders flag id ++ [pending] := by
  cases flagTurn flag id hl hact with
  | changed pending hnumber hmerge hwrite hvalue hholders =>
    rw [hwrite, Option.some.injEq, Write.change.injEq] at h
    exact ⟨pending, h, hvalue, hholders⟩
  | kept hmerge hwrite => simp [hwrite] at h
  | confirmed pending hmem hact' hmerge hwrite => simp [hwrite] at h
  | takenBack pending hmem value hact' hmerge hwrite => simp [hwrite] at h
  | merged merge hmerge hwrite => simp [hwrite] at h

end Loader

end FeedReader
