import FeedReader.Proofs.Paging.CachedList
import FeedReader.Proofs.Paging.FlagTurn

/-!
# Flags in the cache

When no change of a stream is pending any more, a flag should be in the cache as it is shown.
**This is not so in every run.** A change that is confirmed hands its stories to the cache as they
are shown at that moment, with values that belong to other changes of the same story and are not
confirmed. When such a change fails afterwards, the collection gets the value back that was there
before, and the cache does not.

What is true is that the cache misses nothing else (`FeedReader.Loader.cached_flags`): a flag is in
the cache as it is shown **unless it has got a value back since the cache was last given the
story**, and then the last such value is the one that is shown.
-/

namespace FeedReader

open Collection

namespace Loader

/-- A flag of a story as the cache has it. -/
def cachedFlag? (l : Loader) (flag : Flag) (id : StoryId) : Option Bool :=
  (l.cache.tables.row? id).map fun row => flag.get row.toStory

/-- Whether an act gives a story to the cache. -/
def stores (id : StoryId) (pair : Loader × Act) : Bool :=
  (deposit? pair).any fun deposit => id ∈ deposit.batch.map Story.id

/-- The value that a flag gets back in an act, if it gets one back. -/
def givenBack? (flag : Flag) (id : StoryId) (pair : Loader × Act) : Option Bool :=
  match write? flag id pair with
  | some (.takeBack _ value) => some value
  | _ => none

/-- The values that a flag has got back since the cache was last given the story, in order. -/
def returnedSince (l : Loader) (flag : Flag) (id : StoryId) (acts : List Act) : List Bool :=
  (l.history acts).foldl
    (fun returned pair =>
      if stores id pair then [] else returned ++ (givenBack? flag id pair).toList) []

theorem returnedSince_concat (l : Loader) (flag : Flag) (id : StoryId) (acts : List Act)
    (act : Act) :
    l.returnedSince flag id (acts ++ [act]) =
      if stores id (l.run acts, act) then []
      else l.returnedSince flag id acts ++ (givenBack? flag id (l.run acts, act)).toList := by
  rw [returnedSince, history_append, List.foldl_append]
  rfl

variable {l : Loader} {flag : Flag} {id : StoryId} {act : Act} {returned : List Bool}

theorem isSome_flag? {c : Collection} (flag : Flag) :
    (c.flag? flag id).isSome = true ↔ id ∈ c.ids := by
  rw [flag?, Option.isSome_map, isSome_find?]

theorem get_toStory_ofStory (flag : Flag) (story : Story) :
    flag.get (Row.ofStory story).toStory = flag.get story := by
  rw [Row.toStory_ofStory]
  cases flag <;> rfl

/-- **A story that is given to the cache has its flags there as it was given**, and any other has
those that it had. -/
theorem cachedFlag?_step {deposit : Deposit} (hlisted : ListedInCache (l.step act))
    (hkey : (l.step act).context.key = l.context.key)
    (htables : (l.step act).cache.tables = deposit.put l.cache.tables l.context.key)
    (hid : id ∈ (l.step act).collection.ids) :
    (l.step act).cachedFlag? flag id =
      ((lastCopy? id deposit.batch).map flag.get).or (l.cachedFlag? flag id) := by
  have hlinked : id ∈ (deposit.put l.cache.tables l.context.key).linkedIds l.context.key := by
    rw [← htables, ← hkey, hlisted.listed]
    exact hid
  rw [cachedFlag?, htables, deposit.row?_put hlinked, Option.map_or, Option.map_map]
  congr 2
  funext copy
  exact get_toStory_ofStory flag copy

/-- A flag that no pending change holds is shown as it was last given back, or else as the cache
has it. -/
def ShownAsCached (flag : Flag) (id : StoryId) (l : Loader) (returned : List Bool) : Prop :=
  id ∈ l.collection.ids → l.holders flag id = [] →
    l.collection.flag? flag id = returned.getLast?.or (l.cachedFlag? flag id)

namespace ShownAsCached

/-- Nothing is handed to the cache. -/
theorem withheld (hl : Reachable l) (hact : act.isReset = false) (hpage : l.fetch.page ≠ 0)
    (h : ShownAsCached flag id l returned)
    (hdeposit : deposit? (l, act) = none)
    (hrows : (l.step act).cache.tables.rows = l.cache.tables.rows) :
    ShownAsCached flag id (l.step act) (returned ++ (givenBack? flag id (l, act)).toList) := by
  intro hid hfree
  have hcached : (l.step act).cachedFlag? flag id = l.cachedFlag? flag id := by
    rw [cachedFlag?, Tables.row?, hrows]
    rfl
  rw [hcached]
  cases flagTurn flag id hl hact with
  | kept hmerge hwrite hvalue hholders =>
    rw [← isSome_flag? flag, hvalue hpage, isSome_flag?] at hid
    rw [hholders] at hfree
    rw [hvalue hpage, h hid hfree, givenBack?, hwrite, Option.toList_none, List.append_nil]
  | changed pending hnumber hmerge hwrite hvalue hholders =>
    rw [hholders] at hfree
    simp at hfree
  | confirmed pending hmem hact' hmerge hwrite hvalue hholders =>
    -- The change belongs to the stream, so its stories would have been handed to the cache.
    obtain ⟨hpending, hcurrent, -⟩ := mem_holders.mp hmem
    have hfind := hl.ledger.pendingChange?_of_mem hpending
    rw [hact', deposit?, hfind, Option.bind_some, if_pos hcurrent] at hdeposit
    cases hdeposit
  | takenBack pending hmem value hact' hmerge hwrite hvalue hholders =>
    rw [← isSome_flag? flag, hvalue, Option.isSome_map] at hid
    obtain ⟨before, hbefore⟩ := Option.isSome_iff_exists.mp hid
    rw [hvalue, hbefore, givenBack?, hwrite]
    simp
  | merged merge hmerge hwrite hvalue hholders =>
    rw [deposit?_of_merge hmerge] at hdeposit
    cases hdeposit

/-- A page is merged. -/
theorem merged (hl : Reachable l) {merge : Merge} (hmerge : merge? (l, act) = some merge)
    (h : l.fetch.page ≠ 0 → ShownAsCached flag id l returned)
    (hcached : id ∈ (l.step act).collection.ids → (l.step act).cachedFlag? flag id =
      ((lastCopy? id merge.stories).map flag.get).or (l.cachedFlag? flag id)) :
    ShownAsCached flag id (l.step act)
      (if id ∈ merge.stories.map Story.id then [] else returned) := by
  intro hid hfree
  have hmerged := step_merged hl hmerge
  rw [holders_congr hmerged.generation hmerged.pendingChanges] at hfree
  have hvalue := flag?_step_merged_of_free hl hmerge hfree
  rw [hcached hid]
  cases hlast : lastCopy? id merge.stories with
  | some copy =>
    have hbrought : id ∈ merge.stories.map Story.id := by
      by_contra hnot
      rw [lastCopy?_eq_none.mpr hnot] at hlast
      cases hlast
    rw [hvalue, hlast, if_pos hbrought]
    rfl
  | none =>
    -- The page does not bring the story, so pages before it have.
    rw [hlast, Option.map_none, Option.none_or] at hvalue
    rw [← isSome_flag? flag, hvalue] at hid
    obtain ⟨shown, hshown⟩ := Option.isSome_iff_exists.mp hid
    obtain ⟨hpage, hbefore⟩ := flag?_paged.mp hshown
    have hheld : id ∈ l.collection.ids := (isSome_flag? flag).mp (hbefore ▸ rfl)
    rw [hvalue, hshown, ← hbefore, if_neg (lastCopy?_eq_none.mp hlast)]
    exact h hpage hheld hfree

/-- A change is confirmed. -/
theorem confirmed (hl : Reachable l) {pending : PendingChange}
    (hfind : l.pendingChange? pending.number = some pending)
    (hact : act = .complete (.flag pending.number (.ok ())))
    (hcurrent : pending.generation = l.generation) (h : ShownAsCached flag id l returned)
    (hcached : id ∈ (l.step act).collection.ids → (l.step act).cachedFlag? flag id =
      ((lastCopy? id (l.storiesOf pending)).map flag.get).or (l.cachedFlag? flag id)) :
    ShownAsCached flag id (l.step act)
      (if id ∈ (l.storiesOf pending).map Story.id then [] else returned) := by
  intro hid hfree
  have hcollection : (l.step act).collection = l.collection := by
    rw [hact, step, l.complete_flag_of_ok hfind, if_pos hcurrent]
    rfl
  rw [hcached hid, hcollection]
  rw [hcollection] at hid
  by_cases hstored : id ∈ (l.storiesOf pending).map Story.id
  · obtain ⟨copy, hlast⟩ : ∃ copy, lastCopy? id (l.storiesOf pending) = some copy :=
      Option.ne_none_iff_exists'.mp fun hnone => lastCopy?_eq_none.mp hnone hstored
    have hcopy := hlast
    rw [lastCopy?_storiesOf, Option.ite_none_right_eq_some] at hcopy
    rw [hlast, if_pos hstored, flag?, hcopy.2]
    rfl
  · rw [lastCopy?_eq_none.mpr hstored, if_neg hstored]
    refine h hid ?_
    cases flagTurn_complete_flag flag id hl.ledger pending.number (.ok ()) with
    | kept hmerge hwrite hvalue hholders => rw [← hholders, ← hact, hfree]
    | changed p hnumber hmerge hwrite hvalue hholders => cases hwrite
    | takenBack p hmem value hact' hmerge hwrite hvalue hholders => cases hwrite
    | merged merge hmerge hwrite hvalue hholders => cases hmerge
    | confirmed p hmem hact' hmerge hwrite hvalue hholders =>
      -- If the change held the flag, the story would be one of those that it hands to the cache.
      obtain ⟨hpending, -, hholds⟩ := mem_holders.mp hmem
      simp only [Act.complete.injEq, Completion.flag.injEq] at hact'
      obtain rfl := hl.ledger.eq_of_number hpending (List.mem_of_find?_eq_some hfind)
        hact'.1.symm
      have hnone := lastCopy?_eq_none.mpr hstored
      rw [lastCopy?_storiesOf, if_pos (PendingChange.holds_iff.mp hholds).2] at hnone
      rw [← isSome_flag? flag, flag?, hnone] at hid
      cases hid

/-- **A flag stays in step with the cache, but for values that are given back.** -/
theorem step (hl : Reachable l) (hact : act.isReset = false) (hserved : served (l, act) = true)
    (hlisted : ListedInCache (l.step act)) (hpage : (l.step act).fetch.page ≠ 0)
    (h : l.fetch.page ≠ 0 → ShownAsCached flag id l returned) :
    ShownAsCached flag id (l.step act)
      (if stores id (l, act) then [] else returned ++ (givenBack? flag id (l, act)).toList) := by
  rcases tables_step hserved with ⟨hnone, hrows, -⟩ | ⟨deposit, hdeposit, htables⟩
  · have hpage' : l.fetch.page ≠ 0 := by
      cases hmerge : merge? (l, act) with
      | none => exact (step_unmerged hl hact hmerge).page ▸ hpage
      | some merge =>
        rw [deposit?_of_merge hmerge] at hnone
        cases hnone
    have hstores : stores id (l, act) = false := by
      rw [stores, hnone]
      rfl
    rw [hstores, if_neg Bool.false_ne_true]
    exact (h hpage').withheld hl hact hpage' hnone hrows
  · have hstores : stores id (l, act) = decide (id ∈ deposit.batch.map Story.id) := by
      rw [stores, hdeposit]
      rfl
    simp only [hstores, decide_eq_true_eq]
    rcases deposit?_cases hdeposit with ⟨merge, hmerge, rfl⟩ | ⟨pending, hfind, rfl, hcurrent, rfl⟩
    · have hkey := congrArg Context.key (step_merged hl hmerge).context
      have hback : givenBack? flag id (l, act) = none := by
        obtain ⟨rfl, -, -⟩ := merge?_eq_some.mp hmerge
        rfl
      rw [hback, Option.toList_none, List.append_nil]
      exact merged hl hmerge h fun hid => cachedFlag?_step hlisted hkey htables hid
    · have hkept : Unmerged l (l.step (.complete (.flag pending.number (.ok ())))) :=
        step_unmerged hl rfl rfl
      have hback : givenBack? flag id (l, .complete (.flag pending.number (.ok ()))) = none := rfl
      rw [hback, Option.toList_none, List.append_nil]
      exact (h (hkept.page ▸ hpage)).confirmed hl hfind rfl hcurrent fun hid =>
        cachedFlag?_step hlisted hkept.key htables hid

end ShownAsCached

/-- **Where the cache and the collection differ.** If the cache has served the loader since the
stream began, then once a page has been merged every story is in the cache, and a flag that no
pending change has moved is shown as it was last given back since the cache was given the story,
and as the cache has it if it was not. So the two agree exactly if the last value that was given
back, if any, is the one that the cache has. -/
theorem cached_flags (context : Context) (cache : Cache) (pageSize : Nat) (acts : List Act) :
    let start := Loader.new context cache pageSize
    let l := start.run acts
    start.ServedIn acts l.generation → l.fetch.page ≠ 0 →
      ∀ flag, ∀ id ∈ l.collection.ids, l.holders flag id = [] →
        ∃ shown cached, l.collection.flag? flag id = some shown ∧
          l.cachedFlag? flag id = some cached ∧
          shown = ((start.returnedSince flag id acts).getLast?).getD cached ∧
          (cached = shown ↔
            ∀ value, (start.returnedSince flag id acts).getLast? = some value →
              value = cached) := by
  intro start l hserved hpage flag id hid hfree
  have hstart : Reachable start := .new context cache pageSize
  -- What the cache lists is needed to know what a deposit does to it, so both are carried along.
  have hinvariant : ListedInCache l ∧
      ShownAsCached flag id l (start.returnedSince flag id acts) := by
    refine ServedIn.induction (P := fun acts => ListedInCache (start.run acts) ∧
      ShownAsCached flag id (start.run acts) (start.returnedSince flag id acts)) rfl
      (fun acts act hact hserved h hpage => ?_) acts hserved hpage
    have hlisted :=
      ListedInCache.step (hstart.run acts) hact hserved (fun hpage => (h hpage).1) hpage
    rw [run_append, returnedSince_concat]
    exact ⟨hlisted, ShownAsCached.step (hstart.run acts) hact hserved hlisted hpage
      fun hpage => (h hpage).2⟩
  obtain ⟨hlisted, hshown⟩ := hinvariant
  obtain ⟨shown, hflag⟩ := Option.isSome_iff_exists.mp ((isSome_flag? flag).mpr hid)
  obtain ⟨row, hrow⟩ := Option.isSome_iff_exists.mp (hlisted.isSome_row? hid)
  have hcached : l.cachedFlag? flag id = some (flag.get row.toStory) := by
    rw [cachedFlag?, hrow]
    rfl
  have hvalue := hshown hid hfree
  rw [hflag, hcached, Option.or_some, Option.some.injEq] at hvalue
  refine ⟨shown, flag.get row.toStory, hflag, hcached, hvalue, ?_⟩
  rw [hvalue]
  cases (start.returnedSince flag id acts).getLast? with
  | none => simp
  | some value => simp [eq_comm]

/-- A story is marked read and saved, and the server accepts the first change and refuses the
second. -/
def saveRefused : List Act :=
  [.reset { source := .feed 1 }, .requestPage,
    .complete (.page ⟨1, { source := .feed 1 }, 1⟩
      (.ok [{ id := ⟨"1:a"⟩, feedId := 1, title := "" }])),
    .mark .markRead ⟨"1:a"⟩, .mark .save ⟨"1:a"⟩,
    .complete (.flag 0 (.ok ())), .complete (.flag 1 (.error .timeout))]

/-- The read flag agrees. -/
theorem cached_flags_of_save_refused :
    let start := Loader.new { source := .feed 1 } {} 2
    let l := start.run saveRefused
    start.ServedIn saveRefused l.generation ∧ l.fetch.page ≠ 0 ∧ ⟨"1:a"⟩ ∈ l.collection.ids ∧
      l.holders .read ⟨"1:a"⟩ = [] ∧
      ∃ cached, l.cachedFlag? .read ⟨"1:a"⟩ = some cached ∧
        l.collection.flag? .read ⟨"1:a"⟩ = some cached := by
  have hserved : (Loader.new { source := .feed 1 } {} 2).ServedIn saveRefused
      ((Loader.new { source := .feed 1 } {} 2).run saveRefused).generation := by
    decide +kernel
  have hpage : ((Loader.new { source := .feed 1 } {} 2).run saveRefused).fetch.page ≠ 0 := by
    decide +kernel
  have hid :
      ⟨"1:a"⟩ ∈ ((Loader.new { source := .feed 1 } {} 2).run saveRefused).collection.ids := by
    decide +kernel
  have hfree : ((Loader.new { source := .feed 1 } {} 2).run saveRefused).holders .read ⟨"1:a"⟩ =
      [] := by
    decide +kernel
  have hreturned : (Loader.new { source := .feed 1 } {} 2).returnedSince .read ⟨"1:a"⟩ saveRefused =
      [] := by
    decide +kernel
  obtain ⟨shown, cached, hshown, hcached, heq, -⟩ :=
    cached_flags { source := .feed 1 } {} 2 saveRefused hserved hpage .read ⟨"1:a"⟩ hid hfree
  rw [hreturned] at heq
  obtain rfl : shown = cached := heq
  exact ⟨hserved, hpage, hid, hfree, shown, hcached, hshown⟩

/-- **The cache does not always agree.** The change that is accepted hands the story to the cache
with both flags set, and the saved flag stays there when the other change is refused. -/
theorem not_forall_cached_flags :
    ¬∀ (context : Context) (cache : Cache) (pageSize : Nat) (acts : List Act),
      let start := Loader.new context cache pageSize
      let l := start.run acts
      start.ServedIn acts l.generation → l.fetch.page ≠ 0 → l.pendingChanges = [] →
        ∀ flag, ∀ id ∈ l.collection.ids, l.cachedFlag? flag id = l.collection.flag? flag id := by
  intro h
  have hwrong := h { source := .feed 1 } {} 2 saveRefused (by decide +kernel) (by decide +kernel)
    (by decide +kernel) .saved ⟨"1:a"⟩ (by decide +kernel)
  exact absurd hwrong (by decide +kernel)

end Loader

end FeedReader
