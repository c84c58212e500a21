import FeedReader.Proofs.Paging.FlagTurn

/-!
# Flag changes touch nothing but flags

The user changes flags, and the server confirms the changes or refuses them, in any order. However
many of them there are, **nothing but flags is changed** (`FeedReader.Loader.flags_only`): neither
the stories themselves nor their order, nor where the loader stands in its stream, nor the pages
that it waits for.

An act of this kind deals with one change at most, the one that it makes or answers
(`FeedReader.Loader.handled?`). The flags that it may move are those that this change remembers, all
of one kind, and every other flag stays as it is (`FeedReader.Loader.flag?_step_of_free`). A change
that is answered has been made before, so a flag that no change remembers, neither one that was
pending at the beginning nor one that has been made since, is as it was in the end.
-/

namespace FeedReader

open Collection

/-- Whether an act changes flags, or answers a change of flags. -/
def Act.changesFlags : Act → Bool
  | mark _ _ | markAllRead | complete (.flag _ _) => true
  | _ => false

theorem Act.cases_of_changesFlags {act : Act} (h : act.changesFlags = true) :
    (∃ change id, act = .mark change id) ∨ act = .markAllRead ∨
      ∃ number result, act = .complete (.flag number result) := by
  unfold changesFlags at h
  split at h
  · exact .inl ⟨_, _, rfl⟩
  · exact .inr (.inl rfl)
  · exact .inr (.inr ⟨_, _, rfl⟩)
  · cases h

namespace Loader

variable {l : Loader} {act : Act} {acts : List Act} {flag : Flag} {id : StoryId}

/-! ### What a mark does -/

/-- A mark has nothing to do and does nothing, or it changes the flag of a story. -/
theorem mark_cases (l : Loader) (change : FlagChange) (id : StoryId) :
    (∃ result, l.mark change id = (l, result) ∧
      (result = .ok false ∨ result = .error (.unknownStory id))) ∨
    ∃ story, story.id = id ∧ l.collection.find? story.id = some story ∧
      change.get story ≠ change.target ∧
      l.mark change story.id = (l.marked change story, .ok true) := by
  cases hfind : l.collection.find? id with
  | none => exact .inl ⟨_, l.mark_of_unknown change hfind, .inr rfl⟩
  | some story =>
    obtain rfl : story.id = id := id_of_find? hfind
    by_cases hset : change.get story = change.target
    · exact .inl ⟨_, l.mark_of_set hfind hset, .inl rfl⟩
    · exact .inr ⟨story, rfl, hfind, hset, l.mark_of_unset hfind hset⟩

/-- A mark changes nothing and sends nothing, or it sends one request. -/
theorem mark_sends (l : Loader) (change : FlagChange) (id : StoryId) :
    (l.mark change id).2 = .ok true ∧
        (l.mark change id).1.requests = l.requests ++ [.flag l.nextNumber (.mark change id)] ∨
      ((l.mark change id).2 = .ok false ∨ (l.mark change id).2 = .error (.unknownStory id)) ∧
        (l.mark change id).1 = l := by
  rcases l.mark_cases change id with ⟨result, hmark, hresult⟩ | ⟨story, rfl, -, -, hmark⟩
  · rw [hmark]
    exact .inr ⟨hresult, rfl⟩
  · rw [hmark]
    exact .inl ⟨rfl, rfl⟩

theorem markAllRead_sends (l : Loader) :
    l.markAllRead.1.requests =
      l.requests ++ [.flag l.nextNumber (.markContextRead l.context)] := by
  rw [markAllRead_eq]

/-! ### The change that an act deals with -/

/-- The change that an act makes, if it makes one: it is pending then, and was not before. -/
def change? : Loader × Act → Option PendingChange
  | (l, act) => (l.step act).pendingChanges[l.pendingChanges.length]?

/-- The changes that a run makes, in order. -/
def changesMade (l : Loader) (acts : List Act) : List PendingChange :=
  (l.history acts).filterMap change?

/-- The change that an act makes or answers, if there is one. -/
def handled? : Loader × Act → Option PendingChange
  | (l, .complete (.flag number _)) => l.pendingChange? number
  | (l, act) => change? (l, act)

/-- The flag that an act is about. -/
def flagOf? : Loader × Act → Option Flag
  | (_, .mark change _) => some change.flag
  | (_, .markAllRead) => some .read
  | (l, .complete (.flag number _)) => (l.pendingChange? number).map fun p => p.change.flag
  | _ => none

theorem change?_of_append {pending : PendingChange}
    (h : (l.step act).pendingChanges = l.pendingChanges ++ [pending]) :
    change? (l, act) = some pending := by
  rw [change?, h]
  exact List.getElem?_concat_length

theorem change?_mark {change : FlagChange} {story : Story}
    (h : l.mark change story.id = (l.marked change story, .ok true)) :
    change? (l, .mark change story.id) =
      some ⟨l.nextNumber, l.generation, change, [(story.id, change.get story)]⟩ := by
  refine change?_of_append ?_
  rw [step, h]
  rfl

theorem change?_of_same (h : l.step act = l) : change? (l, act) = none := by
  rw [change?, h]
  exact List.getElem?_eq_none (Nat.le_refl _)

theorem change?_markAllRead :
    change? (l, .markAllRead) =
      some ⟨l.nextNumber, l.generation, .markAllRead,
        l.collection.unreadIds.map fun id => (id, false)⟩ := by
  refine change?_of_append ?_
  rw [step, markAllRead_eq]

theorem changesMade_cons :
    l.changesMade (act :: acts) = (change? (l, act)).toList ++ (l.step act).changesMade acts := by
  rw [changesMade, history, List.filterMap_cons]
  cases change? (l, act) <;> rfl

/-- What is pending after an act has been pending before, or the act has made it. -/
theorem mem_step_pendingChanges {pending : PendingChange}
    (h : pending ∈ (l.step act).pendingChanges) :
    pending ∈ l.pendingChanges ∨ change? (l, act) = some pending := by
  rcases l.step_pendingChanges act with
    ⟨hsame, -⟩ | ⟨change, targets, hmade, -⟩ | ⟨answered, -, -, -, hanswered, -⟩
  · exact .inl (hsame ▸ h)
  · rw [change?_of_append hmade]
    rw [hmade] at h
    rcases List.mem_append.mp h with hold | hnew
    · exact .inl hold
    · exact .inr (congrArg some (List.mem_singleton.mp hnew).symm)
  · rw [hanswered] at h
    exact .inl (List.mem_of_mem_filter h)

/-! ### What an act leaves alone -/

/-- An act on flags leaves the loader at its place in the stream. -/
theorem samePlace_step (hact : act.changesFlags = true) : SamePlace l (l.step act) := by
  rcases Act.cases_of_changesFlags hact with ⟨change, id, rfl⟩ | rfl | ⟨number, result, rfl⟩
  · exact l.samePlace_mark change id
  · exact l.samePlace_markAllRead
  · exact l.samePlace_complete_flag number result

theorem samePlace_run (hacts : ∀ act ∈ acts, act.changesFlags = true) :
    SamePlace l (l.run acts) := by
  induction acts generalizing l with
  | nil => exact .refl l
  | cons act acts ih =>
    obtain ⟨hact, hacts⟩ := List.forall_mem_cons.mp hacts
    exact (samePlace_step hact).trans (ih hacts)

/-- **A flag moves only under a change that remembers it**, and only if the change belongs to the
stream as it is now. -/
theorem flag?_step_of_free (hact : act.changesFlags = true)
    (hfree : ∀ pending, handled? (l, act) = some pending → pending.generation = l.generation →
      pending.holds flag id = false) :
    (l.step act).collection.flag? flag id = l.collection.flag? flag id := by
  have hnot : ∀ pending, handled? (l, act) = some pending → pending.generation = l.generation →
      ¬(pending.change.flag = flag ∧ id ∈ pending.targets.map Prod.fst) := by
    intro pending hhandled hgen hholds
    have hfalse := hfree pending hhandled hgen
    rw [PendingChange.holds_iff.mpr hholds] at hfalse
    cases hfalse
  rcases Act.cases_of_changesFlags hact with ⟨change, id', rfl⟩ | rfl | ⟨number, result, rfl⟩
  · rcases l.mark_cases change id' with ⟨result, hmark, -⟩ | ⟨story, rfl, -, -, hmark⟩
    · rw [step, hmark]
    · have hother := hnot _ (change?_mark hmark) rfl
      rw [step, hmark, flag?_marked]
      cases l.collection.flag? flag id with
      | none => rfl
      | some value =>
        refine congrArg some (if_neg fun hmoved => hother ⟨hmoved.1, ?_⟩)
        exact List.mem_singleton.mpr hmoved.2.symm
  · have hother := hnot _ change?_markAllRead rfl
    rw [step, flag?_markAllRead]
    cases l.collection.flag? flag id with
    | none => rfl
    | some value =>
      refine congrArg some (if_neg fun hmoved => hother ⟨hmoved.1.symm, ?_⟩)
      rw [List.map_map]
      exact List.mem_map_of_mem hmoved.2
  · cases hfind : l.pendingChange? number with
    | none => rw [step, l.complete_flag_of_unknown hfind]
    | some pending =>
      obtain rfl : pending.number = number := by simpa using List.find?_some hfind
      rcases result with cause | -
      · rw [flag?_of_error hfind]
        by_cases hcurrent : pending.generation = l.generation ∧ pending.change.flag = flag
        · have hnone : valueFor? pending.targets id = none :=
            Option.not_isSome_iff_eq_none.mp fun hsome =>
              hnot pending hfind hcurrent.1 ⟨hcurrent.2, isSome_valueFor?.mp hsome⟩
          simp [hnone]
        · simp only [if_neg hcurrent, Option.map_id']
      · rw [step, l.complete_flag_of_ok hfind]
        split <;> rfl

/-- An act deals with a change of the flag that it is about. -/
theorem change_flag_of_handled? {pending : PendingChange}
    (h : handled? (l, act) = some pending) (hact : act.changesFlags = true) :
    flagOf? (l, act) = some pending.change.flag := by
  rcases Act.cases_of_changesFlags hact with ⟨change, id, rfl⟩ | rfl | ⟨number, result, rfl⟩
  · rcases l.mark_cases change id with ⟨result, hmark, -⟩ | ⟨story, rfl, -, -, hmark⟩
    · have hsame : l.step (.mark change id) = l := congrArg Prod.fst hmark
      cases (change?_of_same hsame).symm.trans h
    · obtain rfl := Option.some.inj ((change?_mark hmark).symm.trans h)
      rfl
  · obtain rfl := Option.some.inj (change?_markAllRead.symm.trans h)
    rfl
  · exact congrArg (Option.map fun p => p.change.flag) h

/-- **An act on one kind of flags leaves the flags of the other kind alone.** -/
theorem flag?_step_of_flagOf? (hact : act.changesFlags = true)
    (hother : flagOf? (l, act) ≠ some flag) :
    (l.step act).collection.flag? flag id = l.collection.flag? flag id := by
  refine flag?_step_of_free hact fun pending hhandled _ => ?_
  refine Bool.eq_false_iff.mpr fun hholds => hother ?_
  rw [change_flag_of_handled? hhandled hact, (PendingChange.holds_iff.mp hholds).1]

/-! ### What a run leaves alone -/

/-- What an act on flags deals with belongs to the stream as it is now only if it has been pending
there or the act has made it. -/
theorem mem_of_handled? {pending : PendingChange} (hhandled : handled? (l, act) = some pending)
    (hgen : pending.generation = l.generation) :
    pending ∈ l.currentChanges ∨ change? (l, act) = some pending := by
  unfold handled? at hhandled
  split at hhandled
  · next hturn =>
    obtain ⟨rfl, rfl⟩ := Prod.mk.inj hturn
    rw [pendingChange?] at hhandled
    exact .inl (List.mem_filter.mpr
      ⟨List.mem_of_find?_eq_some hhandled, decide_eq_true hgen⟩)
  · next hturn =>
    obtain ⟨rfl, rfl⟩ := Prod.mk.inj hturn
    exact .inr hhandled

theorem mem_step_currentChanges {pending : PendingChange} (hact : act.changesFlags = true)
    (h : pending ∈ (l.step act).currentChanges) :
    pending ∈ l.currentChanges ∨ change? (l, act) = some pending := by
  obtain ⟨hpending, hgen⟩ := List.mem_filter.mp h
  rcases mem_step_pendingChanges hpending with hold | hnew
  · refine .inl (List.mem_filter.mpr ⟨hold, ?_⟩)
    rw [← (samePlace_step hact).generation]
    exact hgen
  · exact .inr hnew

/-- **A flag that no change remembers is as it was.** The changes are those that are pending at the
beginning, and those that are made on the way. -/
theorem flag?_run_of_free (hacts : ∀ act ∈ acts, act.changesFlags = true)
    (hfree : ∀ pending ∈ l.currentChanges ++ l.changesMade acts, pending.holds flag id = false) :
    (l.run acts).collection.flag? flag id = l.collection.flag? flag id := by
  induction acts generalizing l with
  | nil => rfl
  | cons act acts ih =>
    obtain ⟨hact, hacts⟩ := List.forall_mem_cons.mp hacts
    simp only [changesMade_cons, List.mem_append, Option.mem_toList] at hfree
    have hstep : (l.step act).collection.flag? flag id = l.collection.flag? flag id := by
      refine flag?_step_of_free hact fun pending hhandled hgen => hfree pending ?_
      exact (mem_of_handled? hhandled hgen).imp_right .inl
    refine (ih hacts fun pending hmem => hfree pending ?_).trans hstep
    rcases List.mem_append.mp hmem with hcurrent | hmade
    · exact (mem_step_currentChanges hact hcurrent).imp_right .inl
    · exact .inr (.inr hmade)

theorem act_mem_of_mem_history {turn : Loader × Act} (h : turn ∈ l.history acts) :
    turn.2 ∈ acts := by
  induction acts generalizing l with
  | nil => cases h
  | cons act acts ih =>
    rcases List.mem_cons.mp h with rfl | hlater
    · exact List.mem_cons_self
    · exact List.mem_cons_of_mem _ (ih hlater)

/-- **Flag changes touch nothing but flags.** However flags are changed, and whatever is answered,
current or late, the stories and their order are the same but for flags, and so is the place in the
stream. An act about one kind of flags leaves the other kind alone. A flag that no change remembers,
neither one that is pending at the beginning nor one that is made on the way, is as it was. A mark
that has nothing to do changes nothing and sends nothing, and every other one sends one request. -/
theorem flags_only (hacts : ∀ act ∈ acts, act.changesFlags = true) :
    ((l.run acts).collection.ids = l.collection.ids ∧
      (l.run acts).collection.unflagged = l.collection.unflagged ∧
      (l.run acts).fetch = l.fetch ∧ (l.run acts).context = l.context ∧
      (l.run acts).generation = l.generation ∧ (l.run acts).seeded = l.seeded ∧
      (l.run acts).pendingPages = l.pendingPages) ∧
    (∀ turn ∈ l.history acts, ∀ flag id, flagOf? turn ≠ some flag →
      (turn.1.step turn.2).collection.flag? flag id = turn.1.collection.flag? flag id) ∧
    (∀ flag id,
      (∀ pending ∈ l.currentChanges ++ l.changesMade acts, pending.holds flag id = false) →
      (l.run acts).collection.flag? flag id = l.collection.flag? flag id) ∧
    (∀ l' change id, (l', Act.mark change id) ∈ l.history acts →
      (l'.mark change id).2 = .ok true ∧
          (l'.mark change id).1.requests =
            l'.requests ++ [.flag l'.nextNumber (.mark change id)] ∨
        ((l'.mark change id).2 = .ok false ∨ (l'.mark change id).2 = .error (.unknownStory id)) ∧
          (l'.mark change id).1 = l') ∧
    (∀ l', (l', Act.markAllRead) ∈ l.history acts →
      l'.markAllRead.1.requests =
        l'.requests ++ [.flag l'.nextNumber (.markContextRead l'.context)]) := by
  have hsame := samePlace_run (l := l) hacts
  refine ⟨⟨ids_eq_of_unflagged hsame.unflagged, hsame.unflagged, hsame.fetch, hsame.context,
    hsame.generation, hsame.seeded, hsame.pendingPages⟩, ?_, ?_, ?_, ?_⟩
  · intro turn hturn flag id hother
    exact flag?_step_of_flagOf? (hacts _ (act_mem_of_mem_history hturn)) hother
  · intro flag id hfree
    exact flag?_run_of_free hacts hfree
  · intro l' change id _
    exact mark_sends l' change id
  · intro l' _
    exact markAllRead_sends l'

/-- A story that is unread, and one that is saved. -/
def twoStories : Loader :=
  (Loader.new { source := .feed 2 } {} 2).run
    [.reset { source := .feed 2 }, .requestPage,
      .complete (.page ⟨1, { source := .feed 2 }, 1⟩
        (.ok [{ id := ⟨"2:a"⟩, feedId := 2, title := "a" },
          { id := ⟨"2:b"⟩, feedId := 2, title := "b", read := true, saved := true }]))]

/-- Both flags of the first story are changed, by a mark for the story and by one for all. The
second change is refused, the first one is confirmed late, and there are a mark for a story that is
not there and an answer that nobody waits for. -/
def refusedMarks : List Act :=
  [.mark .save ⟨"2:a"⟩, .markAllRead, .complete (.flag 1 (.error .timeout)),
    .mark .markRead ⟨"2:c"⟩, .complete (.flag 0 (.ok ())), .complete (.flag 7 (.ok ()))]

/-- In the end the first story is saved and still unread, and the second one is as it was. -/
theorem flags_only_refusedMarks :
    (twoStories.run refusedMarks).collection.ids = [⟨"2:a"⟩, ⟨"2:b"⟩] ∧
      (twoStories.run refusedMarks).collection.flag? .saved ⟨"2:a"⟩ = some true ∧
      (twoStories.run refusedMarks).collection.flag? .read ⟨"2:a"⟩ = some false ∧
      (twoStories.run refusedMarks).collection.flag? .saved ⟨"2:b"⟩ = some true ∧
      (twoStories.run refusedMarks).collection.flag? .read ⟨"2:b"⟩ = some true := by
  have hacts : ∀ act ∈ refusedMarks, act.changesFlags = true := by decide
  obtain ⟨⟨hids, -⟩, -, hfree, -⟩ := flags_only (l := twoStories) hacts
  refine ⟨hids.trans (by decide +kernel), by decide +kernel, by decide +kernel, ?_, ?_⟩
  · exact (hfree .saved ⟨"2:b"⟩ (by decide +kernel)).trans (by decide +kernel)
  · exact (hfree .read ⟨"2:b"⟩ (by decide +kernel)).trans (by decide +kernel)

end Loader

end FeedReader
