import FeedReader.Proofs.Cache.Store
import FeedReader.Proofs.Paging.Merging

/-!
# The cache lists what the collection holds

A stream is kept twice, in the collection and in the cache, and the two take in new stories
independently of each other. What a loader writes to the cache are its *deposits*: each page
that is merged, and the stories of each flag change that is confirmed. The first page replaces
the list of the cache, everything else is added to it.

As long as nobody else writes to the cache and no deposit fails, **both hold the same stories in
the same order, and the same copies of them** (`FeedReader.Loader.cached_list`). Flags are left
aside here: they go their own way.
-/

namespace FeedReader

namespace Loader

/-! ### Deposits -/

/-- A batch that is handed to the cache. -/
structure Deposit where
  /-- Whether the batch is to be the whole list of the context. -/
  replacing : Bool
  batch : List Story

namespace Deposit

def attempt (deposit : Deposit) (cache : Cache) (context : Context) : Except CacheFault Cache :=
  if deposit.replacing then cache.replace context deposit.batch
  else cache.save context deposit.batch

/-- The tables once the batch is there. -/
def put (deposit : Deposit) (t : Tables) (key : String) : Tables :=
  if deposit.replacing then t.replaced key deposit.batch else t.putAll key deposit.batch

theorem eq_put_of_attempt {deposit : Deposit} {cache written : Cache} {context : Context}
    (h : deposit.attempt cache context = .ok written) :
    written = { cache with tables := deposit.put cache.tables context.key } := by
  unfold attempt at h
  unfold put
  cases hreplacing : deposit.replacing with
  | true =>
    rw [hreplacing, if_pos rfl] at h
    exact ((cache.replace_eq_ok context deposit.batch).mp h).2.2
  | false =>
    rw [hreplacing, if_neg Bool.false_ne_true] at h
    exact ((cache.save_eq_ok context deposit.batch).mp h).2.2

variable (deposit : Deposit) {t : Tables} {key : String}

/-- A deposit that replaces puts the links in order, and one that adds keeps them so. -/
theorem ordered_put (h : deposit.replacing = false → t.Ordered key) :
    (deposit.put t key).Ordered key := by
  unfold put
  cases hreplacing : deposit.replacing with
  | true => exact t.ordered_replaced key deposit.batch
  | false => exact (h hreplacing).putAll deposit.batch

theorem linkedIds_put (h : deposit.replacing = false → t.Ordered key) :
    (deposit.put t key).linkedIds key =
      ((if deposit.replacing then [] else t.linkedIds key) ++
        deposit.batch.map Story.id).eraseDups := by
  unfold put
  cases hreplacing : deposit.replacing with
  | true => exact t.linkedIds_replaced key deposit.batch
  | false => exact Tables.linkedIds_putAll deposit.batch (h hreplacing)

theorem row?_put {id : StoryId} (hid : id ∈ (deposit.put t key).linkedIds key) :
    (deposit.put t key).row? id =
      ((lastCopy? id deposit.batch).map Row.ofStory).or (t.row? id) := by
  unfold put at hid ⊢
  split at hid
  · next hreplacing =>
    rw [if_pos hreplacing]
    exact t.row?_replaced key deposit.batch hid
  · next hadding =>
    rw [if_neg hadding]
    exact t.row?_putAll key deposit.batch id

end Deposit

/-- The stories of a flag change, as they are now. -/
def storiesOf (l : Loader) (pending : PendingChange) : List Story :=
  pending.targets.filterMap fun target => l.collection.find? target.1

/-- What an act hands to the cache, if it hands it anything. -/
def deposit? : Loader × Act → Option Deposit
  | (l, .complete (.flag number (.ok ()))) =>
    (l.pendingChange? number).bind fun pending =>
      if pending.generation = l.generation then some ⟨false, l.storiesOf pending⟩ else none
  | (l, act) => (merge? (l, act)).map fun merge => ⟨merge.ticket.page = 1, merge.stories⟩

variable {l : Loader} {act : Act}

theorem deposit?_of_merge {merge : Merge} (h : merge? (l, act) = some merge) :
    deposit? (l, act) = some ⟨merge.ticket.page = 1, merge.stories⟩ := by
  obtain ⟨rfl, -, -⟩ := merge?_eq_some.mp h
  rw [deposit?, h]
  · rfl
  · intro number heq
    cases heq

/-- **There are two kinds of deposits**: pages, and changes that are confirmed. -/
theorem deposit?_cases {deposit : Deposit} (h : deposit? (l, act) = some deposit) :
    (∃ merge, merge? (l, act) = some merge ∧
        deposit = ⟨merge.ticket.page = 1, merge.stories⟩) ∨
      ∃ pending, l.pendingChange? pending.number = some pending ∧
        act = .complete (.flag pending.number (.ok ())) ∧
        pending.generation = l.generation ∧ deposit = ⟨false, l.storiesOf pending⟩ := by
  cases act with
  | complete completion =>
    cases completion with
    | page ticket result =>
      obtain ⟨merge, hmerge, hdeposit⟩ := Option.map_eq_some_iff.mp h
      exact .inl ⟨merge, hmerge, hdeposit.symm⟩
    | flag number result =>
      cases result with
      | error cause => cases h
      | ok _ =>
        obtain ⟨pending, hfind, hdeposit⟩ := Option.bind_eq_some_iff.mp h
        obtain rfl : pending.number = number := by simpa using List.find?_some hfind
        split at hdeposit
        · next hcurrent =>
          exact .inr ⟨pending, hfind, rfl, hcurrent, (Option.some.inj hdeposit).symm⟩
        · cases hdeposit
  | _ => cases h

theorem cache_loadOffline (l : Loader) : l.loadOffline.1.cache = l.cache := by
  rw [loadOffline_eq]

theorem cache_complete_page (ticket : Ticket) (result : Except FetchError (List Story)) :
    (l.complete (.page ticket result)).1.cache =
      (deposit? (l, .complete (.page ticket result))).elim l.cache fun deposit =>
        l.cache.afterAttempt (deposit.attempt l.cache l.context) := by
  have hdeposit : deposit? (l, .complete (.page ticket result)) =
      (merge? (l, .complete (.page ticket result))).map
        fun merge => ⟨merge.ticket.page = 1, merge.stories⟩ := rfl
  rw [hdeposit, merge?_complete_page]
  rcases l.complete_page_cases ticket result with
    ⟨hmem, h⟩ | ⟨-, hexp, h⟩ | ⟨stories, rfl, hmem, hexp, h⟩ | ⟨cause, rfl, hmem, hexp, h⟩
  · rw [h]
    cases result <;> simp [hmem]
  · rw [h]
    cases result <;> simp [hexp, withoutPage]
  · rw [h]
    simp only [mergePage_eq, if_pos (And.intro hmem hexp), Option.map_some, Option.elim_some,
      Deposit.attempt, decide_eq_true_eq]
    rfl
  · rw [h, failPage_eq, afterFailure]
    split
    · exact cache_loadOffline _
    · rfl

theorem cache_complete_flag (number : Nat) (result : Except FetchError Unit) :
    (l.complete (.flag number result)).1.cache =
      (deposit? (l, .complete (.flag number result))).elim l.cache fun deposit =>
        l.cache.afterAttempt (deposit.attempt l.cache l.context) := by
  cases hfind : l.pendingChange? number with
  | none =>
    rw [l.complete_flag_of_unknown hfind result]
    cases result <;> simp [deposit?, merge?, hfind]
  | some pending =>
    cases result with
    | error cause =>
      rw [l.complete_flag_of_error hfind cause]
      split
      · rw [takeBack_eq]
        rfl
      · rfl
    | ok _ =>
      rw [l.complete_flag_of_ok hfind, deposit?, hfind, Option.bind_some]
      split <;> rfl

/-- **Deposits are all that a loader writes to the cache.** -/
theorem cache_step (hact : ∀ cache, act ≠ .useCache cache) :
    (l.step act).cache =
      (deposit? (l, act)).elim l.cache fun deposit =>
        l.cache.afterAttempt (deposit.attempt l.cache l.context) := by
  cases act with
  | reset context =>
    rw [step, reset_eq]
    exact cache_loadOffline _
  | loadOffline => exact cache_loadOffline l
  | changeLevel level => rfl
  | useCache cache => exact absurd rfl (hact cache)
  | requestPage =>
    rw [step]
    cases hidle : l.fetch.isIdle with
    | false =>
      rw [l.requestPage_of_busy hidle]
      rfl
    | true =>
      rw [l.requestPage_of_idle hidle]
      rfl
  | mark change id =>
    rw [step]
    cases hfind : l.collection.find? id with
    | none =>
      rw [l.mark_of_unknown change hfind]
      rfl
    | some story =>
      by_cases hset : change.get story = change.target
      · rw [l.mark_of_set hfind hset]
        rfl
      · rw [l.mark_of_unset hfind hset]
        rfl
  | markAllRead =>
    rw [step, markAllRead_eq]
    rfl
  | complete completion =>
    cases completion with
    | page ticket result => exact cache_complete_page ticket result
    | flag number result => exact cache_complete_flag number result

/-! ### A cache that serves one loader -/

/-- Whether the cache serves the loader in an act: it takes what the loader hands to it, and nobody
else writes to it. It may begin or cease to work for anything else. -/
def served : Loader × Act → Bool
  | (l, .useCache cache) =>
    cache.tables.rows = l.cache.tables.rows ∧ cache.tables.links = l.cache.tables.links
  | (l, act) => (deposit? (l, act)).all fun deposit => (deposit.attempt l.cache l.context).isOk

/-- What a cache that serves the loader holds after an act. -/
theorem tables_step (h : served (l, act) = true) :
    (deposit? (l, act) = none ∧ (l.step act).cache.tables.rows = l.cache.tables.rows ∧
        (l.step act).cache.tables.links = l.cache.tables.links) ∨
      ∃ deposit, deposit? (l, act) = some deposit ∧
        (l.step act).cache.tables = deposit.put l.cache.tables l.context.key := by
  by_cases huse : ∃ cache, act = .useCache cache
  · obtain ⟨cache, rfl⟩ := huse
    exact .inl ⟨rfl, by simpa [served, step] using h⟩
  · have hact : ∀ cache, act ≠ .useCache cache := fun cache heq => huse ⟨cache, heq⟩
    have hserved : ((deposit? (l, act)).all fun deposit =>
        (deposit.attempt l.cache l.context).isOk) = true := by
      rwa [served] at h
      exact hact
    have hcache := cache_step (l := l) hact
    cases hdeposit : deposit? (l, act) with
    | none =>
      rw [hdeposit] at hcache
      exact .inl ⟨rfl, by rw [hcache]; rfl, by rw [hcache]; rfl⟩
    | some deposit =>
      rw [hdeposit] at hcache hserved
      refine .inr ⟨deposit, rfl, ?_⟩
      cases hattempt : deposit.attempt l.cache l.context with
      | error fault =>
        rw [Option.all_some, hattempt] at hserved
        cases hserved
      | ok written =>
        rw [hcache, Option.elim_some, hattempt]
        exact congrArg Cache.tables (Deposit.eq_put_of_attempt hattempt)

/-! ### The list of the cache -/

/-- **The cache has the collection under the key of the context**: its stories in its order, and
the same copies of them, flags aside and with scores on the scale. -/
structure ListedInCache (l : Loader) : Prop where
  ordered : l.cache.tables.Ordered l.context.key
  listed : l.cache.tables.linkedIds l.context.key = l.collection.ids
  copied : ∀ id ∈ l.collection.ids,
    (l.cache.tables.row? id).map (fun row => row.toStory.unflagged) =
      (l.collection.unflagged.find? id).map Story.onScale

/-- Of the stories of a flag change, the last copy is the one that is held. -/
theorem lastCopy?_storiesOf (l : Loader) (pending : PendingChange) (id : StoryId) :
    lastCopy? id (l.storiesOf pending) =
      if id ∈ pending.targets.map Prod.fst then l.collection.find? id else none := by
  unfold storiesOf
  induction pending.targets with
  | nil => rfl
  | cons target targets ih =>
    cases hfind : l.collection.find? target.1 with
    | none =>
      simp only [List.filterMap_cons, hfind, ih, List.map_cons]
      by_cases hid : id = target.1
      · subst hid
        simp [hfind]
      · simp [hid]
    | some story =>
      simp only [List.filterMap_cons, hfind, lastCopy?_cons, ih, List.map_cons,
        Collection.id_of_find? hfind]
      by_cases hid : target.1 = id
      · subst hid
        by_cases hmem : target.1 ∈ targets.map Prod.fst <;> simp [hmem, hfind]
      · have hne : ¬id = target.1 := fun h => hid h.symm
        simp [hid, hne]

/-- The stories of a flag change are held. -/
theorem mem_ids_of_storiesOf {pending : PendingChange} {id : StoryId}
    (h : id ∈ (l.storiesOf pending).map Story.id) : id ∈ l.collection.ids := by
  obtain ⟨story, hstory, rfl⟩ := List.mem_map.mp h
  obtain ⟨target, -, hfind⟩ := List.mem_filterMap.mp hstory
  rw [Collection.id_of_find? hfind]
  exact Collection.mem_ids_of_find? hfind

namespace ListedInCache

/-- Nothing was written to the cache, and the collection has the same stories. -/
theorem unmerged (h : ListedInCache l) (hkept : Unmerged l (l.step act))
    (hunflagged : (l.step act).collection.unflagged = l.collection.unflagged)
    (hrows : (l.step act).cache.tables.rows = l.cache.tables.rows)
    (hlinks : (l.step act).cache.tables.links = l.cache.tables.links) :
    ListedInCache (l.step act) := by
  have hids : (l.step act).collection.ids = l.collection.ids :=
    Collection.ids_eq_of_unflagged hunflagged
  have hof : (l.step act).cache.tables.linksOf l.context.key =
      l.cache.tables.linksOf l.context.key := by
    rw [Tables.linksOf, hlinks]
    rfl
  refine ⟨?_, ?_, fun id hid => ?_⟩
  · rw [hkept.key]
    exact h.ordered.congr hof
  · rw [hkept.key, hids, Tables.linkedIds, hof]
    exact h.listed
  · rw [hunflagged, Tables.row?, hrows]
    exact h.copied id (hids ▸ hid)

/-- A batch was written to the cache, and the collection has taken in the same batch. -/
theorem deposited {deposit : Deposit} (h : deposit.replacing = false → ListedInCache l)
    (hkey : (l.step act).context.key = l.context.key)
    (htables : (l.step act).cache.tables = deposit.put l.cache.tables l.context.key)
    (hids : (l.step act).collection.ids =
      ((if deposit.replacing then [] else l.collection.ids) ++
        deposit.batch.map Story.id).eraseDups)
    (hfind : ∀ id, (l.step act).collection.unflagged.find? id =
      ((lastCopy? id deposit.batch).map Story.unflagged).or
        (if deposit.replacing then none else l.collection.unflagged.find? id)) :
    ListedInCache (l.step act) := by
  have hordered : deposit.replacing = false → l.cache.tables.Ordered l.context.key :=
    fun hadding => (h hadding).ordered
  have hlisted : (deposit.put l.cache.tables l.context.key).linkedIds l.context.key =
      (l.step act).collection.ids := by
    rw [deposit.linkedIds_put hordered, hids]
    cases hreplacing : deposit.replacing with
    | true => rfl
    | false => rw [(h hreplacing).listed]
  refine ⟨?_, ?_, fun id hid => ?_⟩
  · rw [hkey, htables]
    exact deposit.ordered_put hordered
  · rw [hkey, htables, hlisted]
  · rw [htables, deposit.row?_put (hlisted ▸ hid), hfind]
    cases hlast : lastCopy? id deposit.batch with
    | some copy => exact congrArg (fun s => some s.unflagged) (Row.toStory_ofStory copy)
    | none =>
      -- The batch does not bring the story, so it was held before and is not replaced.
      rw [hids, List.mem_eraseDups, List.mem_append] at hid
      have hheld := hid.resolve_right (lastCopy?_eq_none.mp hlast)
      cases hreplacing : deposit.replacing with
      | true => simp [hreplacing] at hheld
      | false =>
        rw [hreplacing, if_neg Bool.false_ne_true] at hheld
        exact (h hreplacing).copied id hheld

/-- A change was confirmed, so that stories go to the cache that are held already. -/
theorem confirmed (h : ListedInCache l) (hnodup : l.collection.ids.Nodup)
    (hkey : (l.step act).context.key = l.context.key)
    (hcollection : (l.step act).collection = l.collection) {pending : PendingChange}
    (htables : (l.step act).cache.tables =
      Deposit.put ⟨false, l.storiesOf pending⟩ l.cache.tables l.context.key) :
    ListedInCache (l.step act) := by
  refine deposited (fun _ => h) hkey htables ?_ fun id => ?_
  · rw [hcollection]
    exact (eraseDups_append_of_subset hnodup fun id hid => mem_ids_of_storiesOf hid).symm
  · simp only [lastCopy?_storiesOf, hcollection, Collection.find?_unflagged]
    split <;> simp

/-- A page was merged. -/
theorem merged (h : l.fetch.page ≠ 0 → ListedInCache l) (hnodup : l.collection.ids.Nodup)
    {merge : Merge} (hmerged : Merged l act merge)
    (htables : (l.step act).cache.tables =
      Deposit.put ⟨merge.ticket.page = 1, merge.stories⟩ l.cache.tables l.context.key) :
    ListedInCache (l.step act) := by
  have hfirst : merge.ticket.page = 1 ↔ l.fetch.page = 0 := by
    rw [hmerged.page]
    omega
  have hunflagged :
      (l.step act).collection.unflagged = (l.paged.merge merge.stories).unflagged := by
    rw [hmerged.collection, unflagged_foldl_reapply]
  refine deposited (fun hlater => h ?_) (by rw [hmerged.context]) htables ?_ fun id => ?_
  · simpa [hfirst] using hlater
  · have hpaged : l.paged.ids.Nodup := by
      rw [paged]
      split
      · exact List.nodup_nil
      · exact hnodup
    rw [Collection.ids_eq_of_unflagged hunflagged, Collection.ids_merge hpaged, paged]
    by_cases hpage : l.fetch.page = 0 <;> simp [hfirst, hpage, Collection.ids]
  · rw [hunflagged, Collection.find?_unflagged, Collection.find?_merge, Option.map_or, paged]
    by_cases hpage : l.fetch.page = 0
    · simp [hfirst, hpage, Collection.find?]
    · simp [hfirst, hpage, Collection.find?_unflagged]

/-- **A loader and a cache that serves it stay together.** -/
theorem step (hl : Reachable l) (hact : act.isReset = false) (hserved : served (l, act) = true)
    (h : l.fetch.page ≠ 0 → ListedInCache l) (hpage : (l.step act).fetch.page ≠ 0) :
    ListedInCache (l.step act) := by
  cases hmerge : merge? (l, act) with
  | some merge =>
    have hdeposit := deposit?_of_merge hmerge
    rcases tables_step hserved with ⟨hnone, -, -⟩ | ⟨deposit, hsome, htables⟩
    · rw [hnone] at hdeposit
      cases hdeposit
    · obtain rfl := Option.some.inj (hsome.symm.trans hdeposit)
      exact merged h hl.nodup_ids (step_merged hl hmerge) htables
  | none =>
    have hkept := step_unmerged hl hact hmerge
    have hpage' : l.fetch.page ≠ 0 := hkept.page ▸ hpage
    rcases tables_step hserved with ⟨-, hrows, hlinks⟩ | ⟨deposit, hsome, htables⟩
    · exact (h hpage').unmerged hkept (hkept.unflagged hpage') hrows hlinks
    · rcases deposit?_cases hsome with ⟨merge, hsome', -⟩ | ⟨pending, hfind, rfl, hcurrent, rfl⟩
      · rw [hmerge] at hsome'
        cases hsome'
      · refine (h hpage').confirmed hl.nodup_ids hkept.key ?_ htables
        rw [Loader.step, l.complete_flag_of_ok hfind, if_pos hcurrent]
        rfl

end ListedInCache

/-- The cache serves the loader in every act of a generation. -/
def ServedIn (start : Loader) (acts : List Act) (generation : Nat) : Prop :=
  ∀ pair ∈ start.history acts, pair.1.generation = generation → served pair = true

instance (start : Loader) (acts : List Act) (generation : Nat) :
    Decidable (start.ServedIn acts generation) :=
  inferInstanceAs (Decidable (∀ pair ∈ start.history acts, _))

/-- **What every act keeps in which the cache serves the loader** holds from the first page of a
stream on, if the cache has served the loader since the stream began. -/
theorem ServedIn.induction {start : Loader} (hstart : start.fetch.page = 0)
    {P : List Act → Prop}
    (hstep : ∀ acts act, act.isReset = false → served (start.run acts, act) = true →
      ((start.run acts).fetch.page ≠ 0 → P acts) →
        ((start.run acts).step act).fetch.page ≠ 0 → P (acts ++ [act]))
    (acts : List Act) (hserved : start.ServedIn acts (start.run acts).generation)
    (hpage : (start.run acts).fetch.page ≠ 0) : P acts := by
  induction acts using List.reverseRecOn with
  | nil => exact absurd hstart hpage
  | append_singleton acts act ih =>
    rw [run_append] at hpage hserved
    cases hact : act.isReset with
    | true =>
      -- A stream that has just begun has no page.
      cases act with
      | reset context =>
        simp only [run_cons, run_nil, step, reset_eq, loadOffline_eq] at hpage
        exact absurd rfl hpage
      | _ => cases hact
    | false =>
      have hgen : ((start.run acts).step act).generation = (start.run acts).generation := by
        rw [step_generation, hact]
        rfl
      have hhistory := start.history_append acts [act]
      refine hstep acts act hact ?_ (ih ?_) hpage
      · refine hserved _ ?_ hgen.symm
        rw [hhistory]
        simp [history]
      · intro pair hpair hpairgen
        refine hserved pair ?_ (hpairgen.trans hgen.symm)
        rw [hhistory]
        exact List.mem_append_left _ hpair

theorem listedInCache_run {start : Loader} (hstart : Reachable start)
    (hpage₀ : start.fetch.page = 0) (acts : List Act)
    (hserved : start.ServedIn acts (start.run acts).generation)
    (hpage : (start.run acts).fetch.page ≠ 0) : ListedInCache (start.run acts) := by
  refine ServedIn.induction (P := fun acts => ListedInCache (start.run acts)) hpage₀
    (fun acts act hact hserved h hpage => ?_) acts hserved hpage
  rw [run_append]
  exact ListedInCache.step (hstart.run acts) hact hserved h hpage

/-- Every story of the collection is in the cache. -/
theorem ListedInCache.isSome_row? (h : ListedInCache l) {id : StoryId}
    (hid : id ∈ l.collection.ids) : (l.cache.tables.row? id).isSome = true := by
  have hcopied := congrArg Option.isSome (h.copied id hid)
  rw [Collection.find?_unflagged, Option.isSome_map, Option.isSome_map, Option.isSome_map]
    at hcopied
  rw [hcopied]
  exact Collection.isSome_find?.mpr hid

/-- The stories that the cache lists, flags aside, are the first ones of the collection. -/
theorem ListedInCache.unflagged_stories (h : ListedInCache l) (hnodup : l.collection.ids.Nodup) :
    (l.cache.tables.stories l.context.key).map Story.unflagged =
      (l.collection.stories.take Tables.listingLimit).map fun story => story.onScale.unflagged := by
  have hfind : ∀ story ∈ l.collection.stories,
      (l.collection.unflagged.find? story.id).map Story.onScale =
        some story.onScale.unflagged := by
    intro story hstory
    rw [Collection.find?_unflagged, Collection.find?_eq_some_of_mem hnodup hstory]
    rfl
  have hrows : ∀ id ∈ l.cache.tables.linkedIds l.context.key,
      (l.cache.tables.row? id).isSome = true :=
    fun id hid => h.isSome_row? (h.listed ▸ hid)
  rw [h.ordered.stories hrows, h.listed, List.map_filterMap, Collection.ids, ← List.map_take,
    List.filterMap_map]
  have hcopies : ∀ story ∈ l.collection.stories.take Tables.listingLimit,
      ((l.cache.tables.row? story.id).map Row.toStory).map Story.unflagged =
        some story.onScale.unflagged := by
    intro story hstory
    have hheld := List.mem_of_mem_take hstory
    rw [Option.map_map]
    exact (h.copied story.id (List.mem_map_of_mem hheld)).trans (hfind story hheld)
  exact (List.filterMap_congr hcopies).trans (List.filterMap_eq_map' ▸ rfl)

/-- **The list of the cache follows the collection.** If the cache has served the loader since the
stream began, then once a page has been merged it lists, under the key of the context, exactly the
stories of the collection in their order, and reading the context gives the first of them, each
like the copy that is held but for its flags and for a score beyond the scale. What flag changes
came between, which of them failed, which pages failed and what the cache held before makes no
difference. -/
theorem cached_list (context : Context) (cache : Cache) (pageSize : Nat) (acts : List Act) :
    let start := Loader.new context cache pageSize
    let l := start.run acts
    start.ServedIn acts l.generation → l.fetch.page ≠ 0 →
      (l.cache.tables.sortedLinks l.context.key).map Link.id = l.collection.ids ∧
        (l.cache.outage.load = false → ∃ loaded,
          l.cache.load l.context = .ok loaded ∧
            loaded.map Story.id = l.collection.ids.take Tables.listingLimit ∧
            loaded.map Story.unflagged = (l.collection.stories.take Tables.listingLimit).map
              fun story => story.onScale.unflagged) := by
  intro start l hserved hpage
  have hlisted : ListedInCache l :=
    listedInCache_run (.new context cache pageSize) rfl acts hserved hpage
  have hnodup : l.collection.ids.Nodup := (contents_run context cache pageSize acts).nodup
  have hstories := hlisted.unflagged_stories hnodup
  refine ⟨?_, fun hload => ⟨l.cache.tables.stories l.context.key, ?_, ?_, hstories⟩⟩
  · rw [hlisted.ordered.sortedLinks]
    exact hlisted.listed
  · rw [Cache.load, hload]
    rfl
  · have hids := congrArg (List.map Story.id) hstories
    rw [List.map_map, List.map_map] at hids
    rw [Collection.ids, ← List.map_take]
    exact hids

/-- Two pages over a cache that holds another story, and two flag changes, the later of which
fails. -/
def twoPagesMarked : List Act :=
  twoPages ++
    [.mark .markRead ⟨"1:a"⟩, .mark .save ⟨"1:c"⟩, .complete (.flag 1 (.error .timeout)),
      .complete (.flag 0 (.ok ()))]

theorem cached_list_of_two_pages :
    let start := Loader.new { source := .feed 1 } staleCache 2
    let l := start.run twoPagesMarked
    start.ServedIn twoPagesMarked l.generation ∧ l.fetch.page ≠ 0 ∧
      (l.cache.tables.sortedLinks l.context.key).map Link.id =
        [⟨"1:a"⟩, ⟨"1:b"⟩, ⟨"1:c"⟩] := by
  have hserved : (Loader.new { source := .feed 1 } staleCache 2).ServedIn twoPagesMarked
      ((Loader.new { source := .feed 1 } staleCache 2).run twoPagesMarked).generation := by
    decide +kernel
  have hpage : ((Loader.new { source := .feed 1 } staleCache 2).run twoPagesMarked).fetch.page ≠
      0 := by
    decide +kernel
  exact ⟨hserved, hpage,
    (cached_list { source := .feed 1 } staleCache 2 twoPagesMarked hserved hpage).1.trans
      (by decide +kernel)⟩

end Loader

end FeedReader
