import FeedReader.Proofs.Cache.Store
import FeedReader.Proofs.Story.Context

/-!
# Streams do not mix in the cache

What an act of the cache makes of the list of a key depends on that list and on whether the act
succeeds, and on nothing that was written under other keys (`FeedReader.Store.lists_follow`). Since
a key names one stream, **what is listed for a context is what was written for its stream**:
dropping all acts that write to other streams from a run changes nothing of it
(`FeedReader.Cache.loadedIds_run_filter`).

The copies of the stories are shared, as a story is the same in whatever stream it is read.
-/

namespace FeedReader

namespace Tables

theorem refused_putAll (t : Tables) (key : String) (batch : List Story) :
    (t.putAll key batch).refused = t.refused := by
  have hfold : ∀ w : Writing,
      (batch.foldl (Writing.put key) w).tables.refused = w.tables.refused := by
    induction batch with
    | nil => exact fun _ => rfl
    | cons story batch ih =>
      intro w
      rw [List.foldl_cons, ih, Writing.refused_put]
  exact hfold _

theorem refused_replaced (t : Tables) (key : String) (batch : List Story) :
    (t.replaced key batch).refused = t.refused :=
  refused_putAll (t.unlink key) key batch

end Tables

namespace Cache

/-- Whether an act does what it is asked to do. -/
def accepts (cache : Cache) : Act → Bool
  | .save _ batch => !cache.outage.save && !cache.tables.refuses batch
  | .replace _ batch => !cache.outage.replace && !cache.tables.refuses batch
  | .disturb _ _ => true

/-- An attempt to write either succeeds as expected or fails. -/
theorem attempt_cases {attempt : Except CacheFault Cache} {accepted : Bool} {after : Cache}
    (h : ∀ written, attempt = .ok written ↔ accepted = true ∧ written = after) :
    (accepted = true ∧ attempt = .ok after) ∨
      accepted = false ∧ ∃ fault, attempt = .error fault := by
  cases hattempt : attempt with
  | ok written =>
    obtain ⟨haccepted, rfl⟩ := (h written).mp hattempt
    exact .inl ⟨haccepted, rfl⟩
  | error fault =>
    refine .inr ⟨?_, fault, rfl⟩
    by_contra haccepted
    have hok := (h after).mpr ⟨eq_true_of_ne_false haccepted, rfl⟩
    rw [hattempt] at hok
    cases hok

theorem save_cases (cache : Cache) (context : Context) (batch : List Story) :
    (cache.accepts (.save context batch) = true ∧ cache.save context batch =
        .ok { cache with tables := cache.tables.putAll context.key batch }) ∨
      cache.accepts (.save context batch) = false ∧
        ∃ fault, cache.save context batch = .error fault :=
  attempt_cases fun _ => by
    rw [save_eq_ok, accepts, Bool.and_eq_true, Bool.not_eq_true', Bool.not_eq_true', and_assoc]

theorem replace_cases (cache : Cache) (context : Context) (batch : List Story) :
    (cache.accepts (.replace context batch) = true ∧ cache.replace context batch =
        .ok { cache with tables := cache.tables.replaced context.key batch }) ∨
      cache.accepts (.replace context batch) = false ∧
        ∃ fault, cache.replace context batch = .error fault :=
  attempt_cases fun _ => by
    rw [replace_eq_ok, accepts, Bool.and_eq_true, Bool.not_eq_true', Bool.not_eq_true', and_assoc]

/-- What an act that succeeds makes of the list of a key. -/
def Act.list (key : String) (list : List StoryId) : Act → List StoryId
  | .save context batch =>
    if context.key = key then
      list ++ ((batch.map Story.id).filter fun id => id ∉ list).eraseDups
    else list
  | .replace context batch =>
    if context.key = key then (batch.map Story.id).eraseDups else list
  | .disturb _ _ => list

/-- Whether an act writes, rather than disturbs the cache. -/
def Act.writes : Act → Bool
  | .save _ _ | .replace _ _ => true
  | .disturb _ _ => false

/-- Whether an act has to do with the stream of a context. A cache that is disturbed is so for all
streams. -/
def Act.concerns (context : Context) : Act → Bool
  | .save written _ | .replace written _ => written.sameStream context
  | .disturb _ _ => true

/-- An act that has nothing to do with a stream leaves the list of its key alone. -/
theorem Act.list_of_not_concerns {context : Context} {act : Act} (h : act.concerns context = false)
    (list : List StoryId) : act.list context.key list = list := by
  cases act with
  | save written batch | replace written batch =>
    have hkey : written.key ≠ context.key := fun heq => by
      rw [concerns, (Context.key_eq_key_iff written context).mp heq] at h
      cases h
    exact if_neg hkey
  | disturb outage refused => rfl

end Cache

/-- **A list is changed by the acts on its key that succeed**, and by the list that it was. -/
theorem Store.lists_follow (s : Store) (cache : Cache) (act : Cache.Act) (key : String) :
    (s.follow cache act).lists key =
      if cache.accepts act then act.list key (s.lists key) else s.lists key := by
  have hwritten : ∀ key' batch list hnodup hkept,
      (s.write key' batch list hnodup hkept).lists key =
        if key' = key then list else s.lists key := by
    intro key' batch list hnodup hkept
    rw [write]
    exact if_congr eq_comm rfl rfl
  cases act with
  | save context batch =>
    rcases cache.save_cases context batch with ⟨haccepts, hsave⟩ | ⟨haccepts, fault, hsave⟩
    · rw [follow, hsave, haccepts, if_pos rfl]
      refine (hwritten ..).trans ?_
      rw [Cache.Act.list]
      split
      · next heq => rw [heq]; rfl
      · rfl
    · rw [follow, hsave, haccepts]
      rfl
  | replace context batch =>
    rcases cache.replace_cases context batch with
      ⟨haccepts, hreplace⟩ | ⟨haccepts, fault, hreplace⟩
    · rw [follow, hreplace, haccepts, if_pos rfl]
      exact hwritten ..
    · rw [follow, hreplace, haccepts]
      rfl
  | disturb outage refused => rfl

namespace Cache

/-! ### Runs without the acts on other streams -/

/-- Two caches that work alike, and the stores that they stand for, which list the same under a
key. -/
structure ListsAlike (key : String) (cache : Cache) (s : Store) (cache' : Cache) (s' : Store) :
    Prop where
  outage : cache'.outage = cache.outage
  refused : cache'.tables.refused = cache.tables.refused
  lists : s'.lists key = s.lists key

/-- Writing does not change which acts succeed. -/
theorem step_of_writes (cache : Cache) {act : Act} (h : act.writes = true) :
    (cache.step act).outage = cache.outage ∧
      (cache.step act).tables.refused = cache.tables.refused := by
  cases act with
  | save context batch =>
    rcases cache.save_cases context batch with ⟨-, hsave⟩ | ⟨-, fault, hsave⟩ <;> rw [step, hsave]
    · exact ⟨rfl, cache.tables.refused_putAll context.key batch⟩
    · exact ⟨rfl, rfl⟩
  | replace context batch =>
    rcases cache.replace_cases context batch with ⟨-, hreplace⟩ | ⟨-, fault, hreplace⟩ <;>
      rw [step, hreplace]
    · exact ⟨rfl, cache.tables.refused_replaced context.key batch⟩
    · exact ⟨rfl, rfl⟩
  | disturb outage refused => cases h

namespace ListsAlike

variable {context : Context} {cache cache' : Cache} {s s' : Store}

/-- An act that both caches see. -/
theorem both (h : ListsAlike context.key cache s cache' s') (act : Act) :
    ListsAlike context.key (cache.step act) (s.follow cache act) (cache'.step act)
      (s'.follow cache' act) := by
  have haccepts : cache'.accepts act = cache.accepts act := by
    cases act <;> simp only [accepts, Tables.refuses, h.outage, h.refused]
  have hlists : (s'.follow cache' act).lists context.key =
      (s.follow cache act).lists context.key := by
    rw [Store.lists_follow, Store.lists_follow, haccepts, h.lists]
  cases hwrites : act.writes with
  | true =>
    obtain ⟨houtage, hrefused⟩ := cache.step_of_writes hwrites
    obtain ⟨houtage', hrefused'⟩ := cache'.step_of_writes hwrites
    exact ⟨houtage'.trans (h.outage.trans houtage.symm),
      hrefused'.trans (h.refused.trans hrefused.symm), hlists⟩
  | false =>
    cases act with
    | disturb outage refused => exact ⟨rfl, rfl, hlists⟩
    | save written batch | replace written batch => cases hwrites

/-- An act on another stream, which only one of the caches sees. -/
theorem one (h : ListsAlike context.key cache s cache' s') {act : Act}
    (hact : act.concerns context = false) :
    ListsAlike context.key (cache.step act) (s.follow cache act) cache' s' := by
  have hlists : (s.follow cache act).lists context.key = s.lists context.key := by
    rw [Store.lists_follow, Act.list_of_not_concerns hact, ite_self]
  have hwrites : act.writes = true := by
    cases act with
    | disturb outage refused => cases hact
    | save written batch | replace written batch => rfl
  obtain ⟨houtage, hrefused⟩ := cache.step_of_writes hwrites
  exact ⟨h.outage.trans houtage.symm, h.refused.trans hrefused.symm, h.lists.trans hlists.symm⟩

theorem run (h : ListsAlike context.key cache s cache' s') (acts : List Act) :
    ListsAlike context.key (cache.run acts) (s.followed cache acts)
      (cache'.run (acts.filter (·.concerns context)))
      (s'.followed cache' (acts.filter (·.concerns context))) := by
  induction acts generalizing cache s cache' s' with
  | nil => exact h
  | cons act acts ih =>
    cases hact : act.concerns context with
    | true =>
      rw [List.filter_cons_of_pos hact]
      exact ih (h.both act)
    | false =>
      rw [List.filter_cons_of_neg (by simp [hact])]
      exact ih (h.one hact)

end ListsAlike

/-- The ids of the stories that are read for a context. -/
def loadedIds (cache : Cache) (context : Context) : Except CacheFault (List StoryId) :=
  (cache.load context).map fun stories => stories.map Story.id

/-- What is read is the beginning of the list of the key. -/
theorem loadedIds_of_refines {cache : Cache} {s : Store} (h : cache.tables.Refines s)
    (context : Context) :
    cache.loadedIds context =
      if cache.outage.load then .error .outOfOrder
      else .ok ((s.lists context.key).take Tables.listingLimit) := by
  rw [loadedIds, load]
  split
  · rfl
  · rw [h.stories]
    exact congrArg Except.ok (s.ids_listing context.key)

/-- **What is listed for a stream is what was written for it.** -/
theorem loadedIds_run_filter (acts : List Act) (context : Context) :
    (run {} (acts.filter (·.concerns context))).loadedIds context =
      (run {} acts).loadedIds context := by
  have hempty : Tables.Refines {} Store.empty := .empty {} rfl
  have hstart : ListsAlike context.key {} .empty {} .empty := ⟨rfl, rfl, rfl⟩
  have halike := hstart.run acts
  rw [loadedIds_of_refines (hempty.run _), loadedIds_of_refines (hempty.run acts), halike.outage,
    halike.lists]

/-- **The key identifies the stream.** Two contexts have the same key exactly if they read the same
stream, whatever their feeds are. Rivers have the same key exactly if they are over the same set of
feeds, in whatever order and however often these are named; the feeds of a river are those that were
named, in strictly ascending order. So a stream is kept in one place: whichever of its contexts it
is looked at in, the cache gives the same. And no two streams share a place: after any acts of the
cache, what is listed for a context is what would be listed if nothing had been written to any other
stream. -/
theorem key_identifies_stream :
    (∀ a b : Context, a.key = b.key ↔ a.sameStream b = true) ∧
      (∀ xs ys, (Source.ofFeeds xs).key = (Source.ofFeeds ys).key ↔ ∀ id, id ∈ xs ↔ id ∈ ys) ∧
      (∀ xs, ∃ ids, Source.ofFeeds xs = .river ids ∧ ids.Pairwise (· < ·) ∧
        ∀ id, id ∈ ids ↔ id ∈ xs) ∧
      (∀ (cache : Cache) (a b : Context), a.sameStream b = true → cache.load a = cache.load b) ∧
      ∀ acts context,
        (run {} acts).loadedIds context =
          (run {} (acts.filter (·.concerns context))).loadedIds context := by
  refine ⟨Context.key_eq_key_iff, fun xs ys => ?_, fun xs => ?_, fun cache a b hsame => ?_,
    fun acts context => (loadedIds_run_filter acts context).symm⟩
  · rw [Source.key_injective.eq_iff, Source.ofFeeds_eq_ofFeeds_iff]
  · exact ⟨_, rfl, Source.pairwise_feeds_ofFeeds xs, fun id => Source.mem_feeds_ofFeeds⟩
  · rw [load, load, (Context.key_eq_key_iff a b).mpr hsame]

/-- The keys of a river whose feeds are named in another order and twice, of a river over no feeds,
and of a feed with a negative number. -/
example :
    (Source.ofFeeds [3, -1, 3]).key = "river:-1,3" ∧ (Source.ofFeeds []).key = "river:" ∧
      (Source.feed (-1)).key = "feed:-1" := by
  decide +kernel

end Cache

end FeedReader
