import FeedReader.Cache.Offline
import FeedReader.Proofs.Cache.Tables

/-!
# The cache as a store

Whoever reads offline does not care for rows, links and positions. What the cache is to them
is a `FeedReader.Store`: **for each key a list of stories without repetition, and of each story
one copy**, the same under all keys. A batch that is saved adds its new stories to the list, a
batch that replaces is the list from then on, and both leave the last copy of each story.

The tables refine this store (`FeedReader.Cache.load_of_followed`). Batches may fail, at any of
their stories or because the cache is out of order, and which ones do may change from one to
the next: a batch that fails has not happened.
-/

namespace FeedReader

namespace Cache

variable (cache : Cache) (context : Context) (batch : List Story) {written : Cache}

/-- Saving succeeds if the cache saves at all and no story is refused. -/
theorem save_eq_ok :
    cache.save context batch = .ok written ↔
      cache.outage.save = false ∧ cache.tables.refuses batch = false ∧
        written = { cache with tables := cache.tables.putAll context.key batch } := by
  rw [save, Tables.save?_eq]
  cases cache.outage.save <;> cases cache.tables.refuses batch <;> simp [eq_comm]

/-- Replacing succeeds if the cache replaces at all and no story is refused. -/
theorem replace_eq_ok :
    cache.replace context batch = .ok written ↔
      cache.outage.replace = false ∧ cache.tables.refuses batch = false ∧
        written = { cache with tables := cache.tables.replaced context.key batch } := by
  have htables := cache.tables.replace?_eq context.key batch
  rw [replace]
  cases cache.outage.replace <;> cases hrefuses : cache.tables.refuses batch <;>
    rw [hrefuses] at htables
  · obtain ⟨replacement, hreplaced, htables⟩ := Option.map_eq_some_iff.mp htables
    simp [hreplaced, htables, eq_comm]
  · rw [if_pos rfl, Option.map_eq_none_iff] at htables
    simp [htables]
  · simp
  · simp

end Cache

/-! ### The abstract store -/

/-- What a cache is to its users. Each story that is listed has a copy. -/
structure Store where
  lists : String → List StoryId
  copies : StoryId → Option Story
  nodup : ∀ key, (lists key).Nodup
  kept : ∀ key, ∀ id ∈ lists key, (copies id).isSome
  named : ∀ id copy, copies id = some copy → copy.id = id

namespace Store

/-- The store to which nothing has been written. -/
def empty : Store where
  lists _ := []
  copies _ := none
  nodup _ := List.nodup_nil
  kept _ _ hmem := absurd hmem List.not_mem_nil
  named _ _ hcopy := absurd hcopy (Option.some_ne_none _).symm

/-- Stores the copies of a batch, and gives a key a list of its own, of stories that were listed
there or that the batch brings. -/
def write (s : Store) (key : String) (batch : List Story) (list : List StoryId)
    (hnodup : list.Nodup) (hkept : ∀ id ∈ list, id ∈ s.lists key ∨ id ∈ batch.map Story.id) :
    Store where
  lists key' := if key' = key then list else s.lists key'
  copies id := (lastCopy? id batch).or (s.copies id)
  nodup key' := by
    split
    · exact hnodup
    · exact s.nodup key'
  kept key' id hmem := by
    have hid : (s.copies id).isSome ∨ id ∈ batch.map Story.id := by
      split at hmem
      · exact (hkept id hmem).imp_left (s.kept key id)
      · exact .inl (s.kept key' id hmem)
    rw [Option.isSome_or]
    rcases hid with hcopy | hbatch
    · rw [hcopy, Bool.or_true]
    · have hlast : (lastCopy? id batch).isSome := by
        rw [Option.isSome_iff_ne_none]
        exact fun hnone => lastCopy?_eq_none.mp hnone hbatch
      rw [hlast, Bool.true_or]
  named id copy hcopy := by
    rcases Option.or_eq_some_iff.mp hcopy with hlast | ⟨-, hold⟩
    · exact id_of_lastCopy? hlast
    · exact s.named id copy hold

/-- The ids of a batch that are not listed under a key yet, in order of their first
occurrence. -/
def newIds (s : Store) (key : String) (batch : List Story) : List StoryId :=
  ((batch.map Story.id).filter fun id => id ∉ s.lists key).eraseDups

theorem mem_newIds {s : Store} {key : String} {batch : List Story} {id : StoryId} :
    id ∈ s.newIds key batch ↔ id ∈ batch.map Story.id ∧ id ∉ s.lists key := by
  rw [newIds, List.mem_eraseDups, List.mem_filter, decide_eq_true_eq]

/-- Adds a batch to the list of a key. -/
def save (s : Store) (key : String) (batch : List Story) : Store :=
  s.write key batch (s.lists key ++ s.newIds key batch)
    (List.nodup_append.mpr ⟨s.nodup key, nodup_eraseDups _, fun _ hold _ hnew heq =>
      (mem_newIds.mp hnew).2 (heq ▸ hold)⟩)
    (fun _ hmem => (List.mem_append.mp hmem).imp_right fun hnew => (mem_newIds.mp hnew).1)

/-- Makes a batch the list of a key. -/
def replace (s : Store) (key : String) (batch : List Story) : Store :=
  s.write key batch (batch.map Story.id).eraseDups (nodup_eraseDups _)
    (fun _ hmem => .inr (List.mem_eraseDups.mp hmem))

/-- The first stories of a list, with their scores on the scale. -/
def listing (s : Store) (key : String) : List Story :=
  ((s.lists key).take Tables.listingLimit).filterMap fun id => (s.copies id).map Story.onScale

/-- No story of a list is missing. -/
theorem ids_listing (s : Store) (key : String) :
    (s.listing key).map Story.id = (s.lists key).take Tables.listingLimit := by
  have hids : ∀ id ∈ (s.lists key).take Tables.listingLimit,
      ((s.copies id).map Story.onScale).map Story.id = some id := by
    intro id hid
    obtain ⟨copy, hcopy⟩ :=
      Option.isSome_iff_exists.mp (s.kept key id (List.mem_of_mem_take hid))
    rw [hcopy]
    exact congrArg some (s.named id copy hcopy)
  rw [listing, List.map_filterMap, List.filterMap_congr hids, List.filterMap_some]

end Store

/-! ### Runs of the cache -/

/-- What may happen to a cache. -/
inductive Cache.Act
  | save (context : Context) (batch : List Story)
  | replace (context : Context) (batch : List Story)
  /-- Other operations fail from now on, and other stories are refused. -/
  | disturb (outage : Outage) (refused : List StoryId)

namespace Cache

/-- The cache after an act. -/
def step (cache : Cache) : Act → Cache
  | .save context batch => cache.afterAttempt (cache.save context batch)
  | .replace context batch => cache.afterAttempt (cache.replace context batch)
  | .disturb outage refused => ⟨{ cache.tables with refused }, outage⟩

/-- The cache after a list of acts. -/
def run (cache : Cache) (acts : List Act) : Cache := acts.foldl step cache

end Cache

namespace Store

/-- The store after an act of the cache, which is none if it fails. -/
def follow (s : Store) (cache : Cache) : Cache.Act → Store
  | .save context batch =>
    match cache.save context batch with
    | .ok _ => s.save context.key batch
    | .error _ => s
  | .replace context batch =>
    match cache.replace context batch with
    | .ok _ => s.replace context.key batch
    | .error _ => s
  | .disturb _ _ => s

/-- The store after a list of acts of the cache. -/
def followed (s : Store) (cache : Cache) : List Cache.Act → Store
  | [] => s
  | act :: acts => (s.follow cache act).followed (cache.step act) acts

end Store

/-! ### Refinement -/

/-- Tables that stand for a store. -/
structure Tables.Refines (t : Tables) (s : Store) : Prop where
  ordered : ∀ key, t.Ordered key
  listed : ∀ key, t.linkedIds key = s.lists key
  copied : ∀ key, ∀ id ∈ s.lists key, t.row? id = (s.copies id).map Row.ofStory

namespace Tables.Refines

variable {t t' : Tables} {s : Store}

/-- What is refused is not part of the store. -/
theorem congr (h : t.Refines s) (hrows : t'.rows = t.rows) (hlinks : t'.links = t.links) :
    t'.Refines s := by
  have hof : ∀ key, t'.linksOf key = t.linksOf key := fun key => by rw [linksOf, hlinks]; rfl
  refine ⟨fun key => (h.ordered key).congr (hof key), fun key => ?_, fun key id hid => ?_⟩
  · rw [linkedIds, hof]
    exact h.listed key
  · rw [row?, hrows]
    exact h.copied key id hid

theorem empty (t : Tables) (hlinks : t.links = []) : t.Refines .empty := by
  have hnone : ∀ key, t.linksOf key = [] := fun key => by simp [linksOf, hlinks]
  have hids : ∀ key, t.linkedIds key = [] := fun key => by simp [linkedIds, hnone]
  refine ⟨fun key => ⟨?_, ?_⟩, hids, fun _ _ hid => absurd hid List.not_mem_nil⟩
  · rw [hnone]
    exact List.Pairwise.nil
  · rw [hids]
    exact List.nodup_nil

/-- A batch that was written under a key, in whichever way. -/
theorem write (h : t.Refines s) {key : String} {batch : List Story} {list : List StoryId}
    (hnodup : list.Nodup) (hkept : ∀ id ∈ list, id ∈ s.lists key ∨ id ∈ batch.map Story.id)
    (hordered : t'.Ordered key) (hlisted : t'.linkedIds key = list)
    (hother : ∀ key', key' ≠ key → t'.linksOf key' = t.linksOf key')
    (hrows : ∀ key', ∀ id ∈ t'.linkedIds key',
      t'.row? id = ((lastCopy? id batch).map Row.ofStory).or (t.row? id)) :
    t'.Refines (s.write key batch list hnodup hkept) := by
  have hlists : ∀ key', t'.linkedIds key' = if key' = key then list else s.lists key' := by
    intro key'
    split
    · next heq => rw [heq, hlisted]
    · next hne =>
      rw [linkedIds, hother key' hne]
      exact h.listed key'
  refine ⟨fun key' => ?_, hlists, fun key' id hid => ?_⟩
  · by_cases hkey : key' = key
    · exact hkey ▸ hordered
    · exact (h.ordered key').congr (hother key' hkey)
  · rw [hrows key' id (hlists key' ▸ hid)]
    change _ = ((lastCopy? id batch).or (s.copies id)).map Row.ofStory
    cases hlast : lastCopy? id batch with
    | some copy => rfl
    | none =>
      -- The batch does not bring the story, so it was listed before, with the copy that it has.
      have hold : id ∉ batch.map Story.id := lastCopy?_eq_none.mp hlast
      have hcopy : t.row? id = (s.copies id).map Row.ofStory := by
        change id ∈ (if key' = key then list else s.lists key') at hid
        split at hid
        · exact h.copied key id ((hkept id hid).resolve_right hold)
        · exact h.copied key' id hid
      simpa using hcopy

theorem save (h : t.Refines s) (key : String) (batch : List Story) :
    (t.putAll key batch).Refines (s.save key batch) := by
  refine h.write _ _ ((h.ordered key).putAll batch) ?_
    (fun _ hne => t.linksOf_putAll_of_ne key batch hne) fun _ id _ => t.row?_putAll key batch id
  have hnew : (batch.map Story.id).removeAll (s.lists key) =
      (batch.map Story.id).filter fun id => id ∉ s.lists key := by
    simp [List.removeAll]
  rw [linkedIds_putAll batch (h.ordered key), h.listed, List.eraseDups_append,
    eraseDups_eq_self (s.nodup key), hnew]
  rfl

theorem replace (h : t.Refines s) (key : String) (batch : List Story) :
    (t.replaced key batch).Refines (s.replace key batch) :=
  h.write _ _ (t.ordered_replaced key batch) (t.linkedIds_replaced key batch)
    (fun _ hne => t.linksOf_replaced_of_ne key batch hne)
    fun _ _ hid => t.row?_replaced key batch hid

/-- **Each act of the cache does to the tables what it does to the store.** -/
theorem step {cache : Cache} (h : cache.tables.Refines s) (act : Cache.Act) :
    (cache.step act).tables.Refines (s.follow cache act) := by
  cases act with
  | disturb outage refused => exact h.congr rfl rfl
  | save context batch =>
    simp only [Cache.step, Store.follow]
    cases hsave : cache.save context batch with
    | error fault => exact h
    | ok written =>
      obtain ⟨-, -, rfl⟩ := (cache.save_eq_ok context batch).mp hsave
      exact h.save context.key batch
  | replace context batch =>
    simp only [Cache.step, Store.follow]
    cases hreplace : cache.replace context batch with
    | error fault => exact h
    | ok written =>
      obtain ⟨-, -, rfl⟩ := (cache.replace_eq_ok context batch).mp hreplace
      exact h.replace context.key batch

theorem run {cache : Cache} (h : cache.tables.Refines s) (acts : List Cache.Act) :
    (cache.run acts).tables.Refines (s.followed cache acts) := by
  induction acts generalizing cache s with
  | nil => exact h
  | cons act acts ih => exact ih (h.step act)

/-- The stories that are read are those of the store. -/
theorem stories (h : t.Refines s) (key : String) : t.stories key = s.listing key := by
  have hrows : ∀ id ∈ t.linkedIds key, (t.row? id).isSome = true := by
    intro id hid
    rw [h.listed] at hid
    rw [h.copied key id hid, Option.isSome_map]
    exact s.kept key id hid
  rw [(h.ordered key).stories hrows, h.listed, Store.listing]
  refine List.filterMap_congr fun id hid => ?_
  rw [h.copied key id (List.mem_of_mem_take hid), Option.map_map]
  congr 1
  funext copy
  exact Row.toStory_ofStory copy

end Tables.Refines

namespace Cache

/-- **The cache is its store.** Whatever batches are saved and replaced under whatever keys, and
whichever of them fail, reading a context gives the first stories of its list in the store, each
as the copy that was written last under any key. None of them is missing. A batch fails exactly
if the cache is out of order for it or one of its stories is refused, and then the store is what
it was before. -/
theorem load_of_followed (acts : List Act) (context : Context) :
    let cache := run {} acts
    let store := Store.empty.followed {} acts
    cache.load context =
        (if cache.outage.load then .error .outOfOrder else .ok (store.listing context.key)) ∧
      (store.listing context.key).map Story.id =
        (store.lists context.key).take Tables.listingLimit ∧
      ∀ batch,
        ((∃ written, cache.save context batch = .ok written) ↔
          cache.outage.save = false ∧ ∀ story ∈ batch, story.id ∉ cache.tables.refused) ∧
        ((∃ written, cache.replace context batch = .ok written) ↔
          cache.outage.replace = false ∧ ∀ story ∈ batch, story.id ∉ cache.tables.refused) := by
  intro cache store
  have hrefines : cache.tables.Refines store := (Tables.Refines.empty {} rfl).run acts
  refine ⟨?_, store.ids_listing context.key, fun batch => ⟨?_, ?_⟩⟩
  · rw [load, hrefines.stories]
  · simp only [save_eq_ok, Tables.refuses_eq_false, exists_and_left, exists_eq, and_true]
  · simp only [replace_eq_ok, Tables.refuses_eq_false, exists_and_left, exists_eq, and_true]

/-- A batch that fails at its second story leaves the list as it was. -/
example :
    let saved : Cache := run {}
      [.save { source := .feed 1 } [{ id := ⟨"1:a"⟩, feedId := 1, title := "a" }],
        .disturb {} [⟨"1:c"⟩],
        .save { source := .feed 1 } [{ id := ⟨"1:b"⟩, feedId := 1, title := "b" },
          { id := ⟨"1:c"⟩, feedId := 1, title := "c" }]]
    saved.load { source := .feed 1 } = .ok [{ id := ⟨"1:a"⟩, feedId := 1, title := "a" }] := by
  decide +kernel

end Cache

end FeedReader
