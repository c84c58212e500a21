import FeedReader.Proofs.Paging.Answers
import FeedReader.Proofs.Paging.Contents

/-!
# What an act does to one flag

The acts of a run are looked at here from a single flag of a single story. An act may *make* a
change of that flag, which the server then is asked for; a change of all stories is a change of
the read flag of each, even of one that was read before. The server's answer *confirms* the
change, or else the change *fails* and is taken back.

**These are the only ways in which the flag moves** as long as no stories come or go
(`FeedReader.Loader.flagEffect`).
-/

namespace FeedReader

/-- Whether an act leaves the collection as it is, flags aside: it begins no stream and brings no
stories. All stories are marked by `markAllRead` only. -/
def Act.movesFlagsOnly : Act → Bool
  | reset _ | loadOffline | complete (.page _ _) => false
  | mark change _ => change ≠ .markAllRead
  | changeLevel _ | requestPage | markAllRead | complete (.flag _ _) | useCache _ => true

namespace Collection

/-- The value of a flag of a story, if the story is held. -/
def flag? (c : Collection) (flag : Flag) (id : StoryId) : Option Bool := (c.find? id).map flag.get

theorem get_set_change (change : FlagChange) (flag : Flag) (value : Bool) (story : Story) :
    flag.get (change.set value story) = if change.flag = flag then value else flag.get story := by
  cases change <;> cases flag <;> rfl

theorem flag?_setFlags (c : Collection) (change : FlagChange) (targets : List (StoryId × Bool))
    (flag : Flag) (id : StoryId) :
    (c.setFlags change targets).flag? flag id =
      (c.flag? flag id).map fun value =>
        if change.flag = flag then (valueFor? targets id).getD value else value := by
  rw [flag?, flag?, find?_setFlags, Option.map_map, Option.map_map]
  congr 1
  funext story
  cases valueFor? targets id <;> simp [get_set_change]

theorem valueFor?_eq_none {targets : List (StoryId × Bool)} {id : StoryId} :
    valueFor? targets id = none ↔ ∀ target ∈ targets, target.1 ≠ id := by
  simp [valueFor?]

theorem valueFor?_singleton (id id' : StoryId) (value : Bool) :
    valueFor? [(id', value)] id = if id' = id then some value else none := by
  by_cases h : id' = id <;> simp [valueFor?, h]

/-- Several stories get the same value. -/
theorem valueFor?_map (ids : List StoryId) (value : Bool) (id : StoryId) :
    valueFor? (ids.map fun id => (id, value)) id = if id ∈ ids then some value else none := by
  rw [valueFor?, List.filter_map, List.getLast?_map, Option.map_map]
  by_cases h : id ∈ ids
  · have hne : ids.filter ((fun target => decide (target.1 = id)) ∘ fun id => (id, value)) ≠ [] :=
      List.ne_nil_of_mem (List.mem_filter.mpr ⟨h, by simp⟩)
    rw [List.getLast?_eq_some_getLast hne, if_pos h]
    rfl
  · have hnil :
        ids.filter ((fun target => decide (target.1 = id)) ∘ fun id => (id, value)) = [] := by
      refine List.filter_eq_nil_iff.mpr fun id' hmem => ?_
      have hne : id' ≠ id := fun heq => h (heq ▸ hmem)
      simpa using hne
    rw [hnil, if_neg h]
    rfl

theorem mem_unreadIds {c : Collection} (h : c.ids.Nodup) {id : StoryId} {value : Bool}
    (hvalue : c.flag? .read id = some value) : id ∈ c.unreadIds ↔ value = false := by
  obtain ⟨story, hstory, rfl⟩ := Option.map_eq_some_iff.mp hvalue
  constructor
  · intro hmem
    obtain ⟨s, hs, rfl⟩ := List.mem_map.mp hmem
    obtain ⟨hs, hread⟩ := List.mem_filter.mp hs
    rw [find?_eq_some_of_mem h hs, Option.some.injEq] at hstory
    subst hstory
    simpa [Flag.get] using hread
  · intro hread
    have hs : story ∈ c.stories := List.mem_of_find?_eq_some hstory
    exact List.mem_map.mpr ⟨story, List.mem_filter.mpr ⟨hs, by simpa [Flag.get] using hread⟩,
      id_of_find? hstory⟩

end Collection

/-! ### Changes of a flag -/

/-- A change of a flag that the user has made. -/
structure Made where
  number : Nat
  target : Bool
deriving DecidableEq, Repr

/-- Something that gives a flag its value. -/
inductive Write
  /-- The user changes the flag. -/
  | change (made : Made)
  /-- A change is taken back, and the flag gets the value that it had before. -/
  | takeBack (number : Nat) (value : Bool)
deriving DecidableEq, Repr

def Write.value : Write → Bool
  | change made => made.target
  | takeBack _ value => value

namespace PendingChange

/-- Whether a change concerns a flag of a story. -/
def covers (pending : PendingChange) (flag : Flag) (id : StoryId) : Bool :=
  pending.change.flag = flag &&
    (pending.change = .markAllRead || pending.targets.any fun target => target.1 = id)

def made (pending : PendingChange) : Made := ⟨pending.number, pending.change.target⟩

end PendingChange

namespace Loader

open Collection

/-- The changes that concern a flag of a story and are pending. -/
def pendingFor (l : Loader) (flag : Flag) (id : StoryId) : List PendingChange :=
  l.currentChanges.filter fun pending => pending.covers flag id

/-- The change of a flag that an act makes, if it makes one. -/
def made? (flag : Flag) (id : StoryId) : Loader × Act → Option Made
  | (l, .mark change id') =>
    match (l.mark change id').2 with
    | .ok true =>
      if change.flag = flag ∧ id' = id then some ⟨l.nextNumber, change.target⟩ else none
    | _ => none
  | (l, .markAllRead) =>
    if flag = .read ∧ id ∈ l.collection.ids then some ⟨l.nextNumber, true⟩ else none
  | _ => none

/-- What an act writes to a flag, if it writes anything. -/
def write? (flag : Flag) (id : StoryId) : Loader × Act → Option Write
  | (l, .complete (.flag number (.error _))) =>
    (l.pendingChange? number).bind fun pending =>
      if pending.generation = l.generation ∧ pending.change.flag = flag then
        (valueFor? pending.targets id).map (.takeBack number)
      else none
  | (l, act) =>
    (made? flag id (l, act)).bind fun made =>
      if l.collection.flag? flag id = some made.target then none else some (.change made)

/-- **What an act does to a flag** that has a value. -/
inductive FlagEffect (flag : Flag) (id : StoryId) (l : Loader) (act : Act) (value : Bool) : Prop
  | unconcerned
    (hmade : made? flag id (l, act) = none)
    (hwrite : write? flag id (l, act) = none)
    (hvalue : (l.step act).collection.flag? flag id = some value)
    (hpending : (l.step act).pendingFor flag id = l.pendingFor flag id)
  | made (pending : PendingChange) (hnumber : pending.number = l.nextNumber)
    (hfailed : failure? (l, act) = none)
    (hmade : made? flag id (l, act) = some pending.made)
    (hwrite : write? flag id (l, act) =
      if value = pending.change.target then none else some (.change pending.made))
    (hvalue : (l.step act).collection.flag? flag id = some pending.change.target)
    (hpending : (l.step act).pendingFor flag id = l.pendingFor flag id ++ [pending])
    (hbefore : valueFor? pending.targets id =
      if value = pending.change.target then none else some value)
  | confirmed (pending : PendingChange) (hmem : pending ∈ l.pendingFor flag id)
    (hconfirmed : confirmation? (l, act) = some pending.number)
    (hfailed : failure? (l, act) = none)
    (hmade : made? flag id (l, act) = none)
    (hwrite : write? flag id (l, act) = none)
    (hvalue : (l.step act).collection.flag? flag id = some value)
    (hpending : (l.step act).pendingFor flag id =
      (l.pendingFor flag id).filter fun p => p.number ≠ pending.number)
  | failed (pending : PendingChange) (hmem : pending ∈ l.pendingFor flag id)
    (hfailed : failure? (l, act) = some pending.number)
    (hmade : made? flag id (l, act) = none)
    (hwrite : write? flag id (l, act) =
      (valueFor? pending.targets id).map (.takeBack pending.number))
    (hvalue : (l.step act).collection.flag? flag id =
      some ((valueFor? pending.targets id).getD value))
    (hpending : (l.step act).pendingFor flag id =
      (l.pendingFor flag id).filter fun p => p.number ≠ pending.number)

variable {l : Loader} {flag : Flag} {id : StoryId} {value : Bool}

theorem mem_pendingFor {pending : PendingChange} :
    pending ∈ l.pendingFor flag id ↔
      pending ∈ l.pendingChanges ∧ pending.generation = l.generation ∧
        pending.covers flag id = true := by
  simp only [pendingFor, currentChanges, List.mem_filter, decide_eq_true_eq, and_assoc]

/-- A change that is made is the last one of those that are pending. -/
theorem filter_currentChanges_made {l' : Loader} {pending : PendingChange}
    (p : PendingChange → Bool) (hgen : l'.generation = l.generation)
    (hcurrent : pending.generation = l.generation)
    (hchanges : l'.pendingChanges = l.pendingChanges ++ [pending]) :
    l'.currentChanges.filter p =
      l.currentChanges.filter p ++ if p pending then [pending] else [] := by
  have hcurrent' : l'.currentChanges = l.currentChanges ++ [pending] := by
    rw [currentChanges, currentChanges, hchanges, hgen, List.filter_append]
    simp [hcurrent]
  rw [hcurrent', List.filter_append]
  cases h : p pending <;> simp [h]

/-- A change that is answered is not pending any more. -/
theorem filter_currentChanges_answered {l' : Loader} {number : Nat} (p : PendingChange → Bool)
    (hgen : l'.generation = l.generation)
    (hchanges : l'.pendingChanges = (l.withoutChange number).pendingChanges) :
    l'.currentChanges.filter p =
      (l.currentChanges.filter p).filter fun pending => pending.number ≠ number := by
  simp only [currentChanges, hchanges, hgen, withoutChange, List.filter_filter]
  refine List.filter_congr fun pending _ => ?_
  rw [Bool.and_comm (decide (pending.number ≠ number)), Bool.and_assoc]

theorem pendingFor_made {l' : Loader} {pending : PendingChange}
    (hgen : l'.generation = l.generation) (hcurrent : pending.generation = l.generation)
    (hchanges : l'.pendingChanges = l.pendingChanges ++ [pending]) :
    l'.pendingFor flag id =
      l.pendingFor flag id ++ if pending.covers flag id then [pending] else [] :=
  filter_currentChanges_made (fun pending => pending.covers flag id) hgen hcurrent hchanges

theorem pendingFor_answered {l' : Loader} {number : Nat} (hgen : l'.generation = l.generation)
    (hchanges : l'.pendingChanges = (l.withoutChange number).pendingChanges) :
    l'.pendingFor flag id = (l.pendingFor flag id).filter fun p => p.number ≠ number :=
  filter_currentChanges_answered (fun pending => pending.covers flag id) hgen hchanges

/-! ### What each act writes -/

/-- A flag after a story has been marked. -/
theorem flag?_marked (change : FlagChange) (story : Story) :
    (l.marked change story).collection.flag? flag id =
      (l.collection.flag? flag id).map fun value =>
        if change.flag = flag ∧ story.id = id then change.target else value := by
  refine (flag?_setFlags l.collection change [(story.id, change.target)] flag id).trans ?_
  congr 1
  funext value
  rw [valueFor?_singleton]
  by_cases hflag : change.flag = flag
  · by_cases hid : story.id = id <;> simp [hflag, hid]
  · simp [hflag]

theorem write?_mark {change : FlagChange} {story : Story}
    (hfind : l.collection.find? story.id = some story) (hset : change.get story ≠ change.target) :
    write? flag id (l, .mark change story.id) =
      if change.flag = flag ∧ story.id = id then some (.change ⟨l.nextNumber, change.target⟩)
      else none := by
  have h := l.mark_of_unset hfind hset
  by_cases hmoved : change.flag = flag ∧ story.id = id
  · obtain ⟨rfl, rfl⟩ := hmoved
    have hvalue : l.collection.flag? change.flag story.id = some (change.get story) := by
      rw [flag?, hfind]
      rfl
    simp [write?, made?, h, hvalue, hset]
  · simp [write?, made?, h, hmoved]

/-- A flag after all stories have been marked read. -/
theorem flag?_markAllRead :
    l.markAllRead.1.collection.flag? flag id =
      (l.collection.flag? flag id).map fun value =>
        if flag = .read ∧ id ∈ l.collection.unreadIds then true else value := by
  rw [markAllRead_eq]
  refine (flag?_setFlags _ _ _ _ _).trans ?_
  congr 1
  funext value
  rw [valueFor?_map]
  cases flag with
  | saved => simp [FlagChange.flag]
  | read => by_cases hunread : id ∈ l.collection.unreadIds <;> simp [FlagChange.flag, hunread]

theorem write?_markAllRead (hnodup : l.collection.ids.Nodup) :
    write? flag id (l, .markAllRead) =
      if flag = .read ∧ id ∈ l.collection.unreadIds then some (.change ⟨l.nextNumber, true⟩)
      else none := by
  cases flag with
  | saved => simp [write?, made?]
  | read =>
    by_cases hheld : id ∈ l.collection.ids
    · obtain ⟨story, hfind⟩ := Option.isSome_iff_exists.mp (isSome_find?.mpr hheld)
      have hvalue : l.collection.flag? .read id = some story.read :=
        congrArg (Option.map Flag.read.get) hfind
      have hunread := mem_unreadIds hnodup hvalue
      cases hread : story.read <;> simp [write?, made?, hheld, hvalue, hunread, hread]
    · have hunread : id ∉ l.collection.unreadIds := fun hmem => by
        obtain ⟨story, hstory, rfl⟩ := List.mem_map.mp hmem
        exact hheld (List.mem_map_of_mem (List.mem_of_mem_filter hstory))
      simp [write?, made?, hheld, hunread]

theorem write?_of_error {pending : PendingChange}
    (hfind : l.pendingChange? pending.number = some pending) (cause : FetchError) :
    write? flag id (l, .complete (.flag pending.number (.error cause))) =
      if pending.generation = l.generation ∧ pending.change.flag = flag then
        (valueFor? pending.targets id).map (.takeBack pending.number)
      else none := by
  simp only [write?, hfind, Option.bind_some]

/-! ### Each act -/

theorem flagEffect_mark (hvalue : l.collection.flag? flag id = some value) {change : FlagChange}
    (hchange : change ≠ .markAllRead) (id' : StoryId) :
    FlagEffect flag id l (.mark change id') value := by
  cases hfind : l.collection.find? id' with
  | none =>
    have h := l.mark_of_unknown change hfind
    exact .unconcerned (by simp [made?, h]) (by simp [write?, made?, h])
      (by simpa [step, h] using hvalue) (by simp [step, h])
  | some story =>
    by_cases hset : change.get story = change.target
    · have h := l.mark_of_set hfind hset
      exact .unconcerned (by simp [made?, h]) (by simp [write?, made?, h])
        (by simpa [step, h] using hvalue) (by simp [step, h])
    · have h := l.mark_of_unset hfind hset
      obtain rfl : story.id = id' := id_of_find? hfind
      let pending : PendingChange :=
        ⟨l.nextNumber, l.generation, change, [(story.id, change.get story)]⟩
      have hpending : (l.marked change story).pendingFor flag id =
          l.pendingFor flag id ++ if pending.covers flag id then [pending] else [] :=
        pendingFor_made rfl rfl rfl
      have hmarked : (l.marked change story).collection.flag? flag id =
          some (if change.flag = flag ∧ story.id = id then change.target else value) := by
        rw [flag?_marked, hvalue, Option.map_some]
      by_cases hcovers : change.flag = flag ∧ story.id = id
      · -- It is this flag of this story, which cannot have had the value that it is moved to.
        obtain ⟨rfl, rfl⟩ := hcovers
        obtain rfl : change.get story = value := by
          simpa [flag?, hfind, FlagChange.get] using hvalue
        refine .made pending rfl rfl (by simp [made?, h, pending, PendingChange.made]) ?_ ?_ ?_ ?_
        · rw [write?_mark hfind hset, if_pos ⟨rfl, rfl⟩, if_neg hset]
          rfl
        · rw [step, h, hmarked, if_pos ⟨rfl, rfl⟩]
        · rw [step, h]
          simpa [PendingChange.covers, pending] using hpending
        · rw [if_neg hset]
          exact (valueFor?_singleton _ _ _).trans (if_pos rfl)
      · refine .unconcerned (by simp [made?, h, hcovers]) ?_ ?_ ?_
        · rw [write?_mark hfind hset, if_neg hcovers]
        · rw [step, h, hmarked, if_neg hcovers]
        · have hnot : pending.covers flag id = false := by
            simpa [PendingChange.covers, pending, hchange] using hcovers
          rw [step, h]
          simpa [hnot] using hpending

theorem flagEffect_markAllRead (hnodup : l.collection.ids.Nodup)
    (hvalue : l.collection.flag? flag id = some value) :
    FlagEffect flag id l .markAllRead value := by
  have hheld : id ∈ l.collection.ids := by
    obtain ⟨story, hstory, -⟩ := Option.map_eq_some_iff.mp hvalue
    exact mem_ids_of_find? hstory
  let pending : PendingChange :=
    ⟨l.nextNumber, l.generation, .markAllRead, l.collection.unreadIds.map fun id => (id, false)⟩
  have hpending : (l.markAllRead.1).pendingFor flag id =
      l.pendingFor flag id ++ if pending.covers flag id then [pending] else [] := by
    rw [markAllRead_eq]
    exact pendingFor_made rfl rfl rfl
  have hmarked : (l.markAllRead.1).collection.flag? flag id =
      some (if flag = .read ∧ id ∈ l.collection.unreadIds then true else value) := by
    rw [flag?_markAllRead, hvalue, Option.map_some]
  cases flag with
  | read =>
    have hunread := mem_unreadIds hnodup hvalue
    refine .made pending rfl rfl ?_ ?_ ?_ ?_ ?_
    · simp [made?, hheld, PendingChange.made, pending, FlagChange.target]
    · rw [write?_markAllRead hnodup]
      cases value <;> simp [hunread, PendingChange.made, pending, FlagChange.target]
    · refine hmarked.trans ?_
      cases value <;> simp [hunread, FlagChange.target, pending]
    · exact hpending
    · refine (valueFor?_map _ _ _).trans ?_
      cases value <;> simp [hunread, FlagChange.target, pending]
  | saved =>
    refine .unconcerned (by simp [made?]) (by simp [write?, made?]) hmarked ?_
    exact hpending.trans (by simp [PendingChange.covers, pending, FlagChange.flag])

/-- A change that does not concern the flag gives it nothing back. -/
theorem valueFor?_of_not_covers {pending : PendingChange} (hflag : pending.change.flag = flag)
    (h : pending.covers flag id = false) : valueFor? pending.targets id = none := by
  simp only [PendingChange.covers, hflag, decide_true, Bool.true_and, Bool.or_eq_false_iff,
    List.any_eq_false, decide_eq_true_eq] at h
  exact valueFor?_eq_none.mpr h.2

/-- The flag after a change has failed. -/
theorem flag?_of_error {pending : PendingChange}
    (hfind : l.pendingChange? pending.number = some pending) (cause : FetchError) :
    (l.step (.complete (.flag pending.number (.error cause)))).collection.flag? flag id =
      (l.collection.flag? flag id).map fun value =>
        if pending.generation = l.generation ∧ pending.change.flag = flag then
          (valueFor? pending.targets id).getD value
        else value := by
  rw [step, l.complete_flag_of_error hfind cause]
  by_cases hcurrent : pending.generation = l.generation
  · rw [if_pos hcurrent, takeBack_eq]
    refine (flag?_setFlags l.collection pending.change pending.targets flag id).trans ?_
    simp [hcurrent]
  · rw [if_neg hcurrent]
    simp [hcurrent, emit, withoutChange]

theorem flagEffect_complete_flag (hledger : Ledger l)
    (hvalue : l.collection.flag? flag id = some value) (number : Nat)
    (result : Except FetchError Unit) :
    FlagEffect flag id l (.complete (.flag number result)) value := by
  cases hfind : l.pendingChange? number with
  | none =>
    have h := l.complete_flag_of_unknown hfind result
    refine .unconcerned rfl ?_ (by simpa [step, h] using hvalue) (by simp [step, h])
    cases result <;> simp [write?, made?, hfind]
  | some pending =>
    obtain rfl : pending.number = number := by simpa using List.find?_some hfind
    have hmem : pending ∈ l.pendingChanges := List.mem_of_find?_eq_some hfind
    have hpending : (l.step (.complete (.flag pending.number result))).pendingFor flag id =
        (l.pendingFor flag id).filter fun p => p.number ≠ pending.number :=
      pendingFor_answered (l.samePlace_complete_flag pending.number result).generation
        (l.pendingChanges_complete_flag hfind result).1
    by_cases hconcerned : pending ∈ l.pendingFor flag id
    · obtain ⟨-, hcurrent, hcovers⟩ := mem_pendingFor.mp hconcerned
      have hflag : pending.change.flag = flag := by
        simp only [PendingChange.covers, Bool.and_eq_true, decide_eq_true_eq] at hcovers
        exact hcovers.1
      cases result with
      | ok _ =>
        refine .confirmed pending hconcerned (confirmation?_of_pending hfind) rfl rfl rfl ?_
          hpending
        rw [step, l.complete_flag_of_ok hfind]
        split <;> exact hvalue
      | error cause =>
        refine .failed pending hconcerned (failure?_of_pending hfind cause) rfl ?_ ?_ hpending
        · rw [write?_of_error hfind, if_pos ⟨hcurrent, hflag⟩]
        · rw [flag?_of_error hfind, hvalue, Option.map_some, if_pos ⟨hcurrent, hflag⟩]
    · -- Numbers tell changes apart, so no pending change of this flag has been answered.
      have hkept : (l.pendingFor flag id).filter (fun p => p.number ≠ pending.number) =
          l.pendingFor flag id :=
        hledger.filter_number_ne (fun p hp => (mem_pendingFor.mp hp).1) hmem hconcerned
      rw [hkept] at hpending
      cases result with
      | ok _ =>
        refine .unconcerned rfl rfl ?_ hpending
        rw [step, l.complete_flag_of_ok hfind]
        split <;> exact hvalue
      | error cause =>
        have hnone : pending.generation = l.generation ∧ pending.change.flag = flag →
            valueFor? pending.targets id = none := by
          rintro ⟨hcurrent, hflag⟩
          refine valueFor?_of_not_covers hflag (Bool.eq_false_iff.mpr fun hcovers => ?_)
          exact hconcerned (mem_pendingFor.mpr ⟨hmem, hcurrent, hcovers⟩)
        refine .unconcerned rfl ?_ ?_ hpending
        · rw [write?_of_error hfind]
          split
          · next h => rw [hnone h, Option.map_none]
          · rfl
        · rw [flag?_of_error hfind, hvalue, Option.map_some]
          split
          · next h => rw [hnone h, Option.getD_none]
          · rfl

/-- **As long as no stories come or go, a flag moves only when it is changed or a change of it
is taken back.** -/
theorem flagEffect (hl : Reachable l) {act : Act} (hact : act.movesFlagsOnly = true)
    (hvalue : l.collection.flag? flag id = some value) : FlagEffect flag id l act value := by
  cases act with
  | reset context => cases hact
  | loadOffline => cases hact
  | changeLevel level => exact .unconcerned rfl rfl hvalue rfl
  | useCache cache => exact .unconcerned rfl rfl hvalue rfl
  | requestPage =>
    refine .unconcerned rfl rfl ?_ ?_ <;> rw [step] <;> cases hidle : l.fetch.isIdle
    · rwa [l.requestPage_of_busy hidle]
    · rwa [l.requestPage_of_idle hidle]
    · rw [l.requestPage_of_busy hidle]
    · rw [l.requestPage_of_idle hidle]
      rfl
  | mark change id' => exact flagEffect_mark hvalue (by simpa [Act.movesFlagsOnly] using hact) id'
  | markAllRead => exact flagEffect_markAllRead hl.nodup_ids hvalue
  | complete completion =>
    cases completion with
    | page ticket result => cases hact
    | flag number result => exact flagEffect_complete_flag hl.ledger hvalue number result

end Loader

end FeedReader
