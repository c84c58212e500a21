import FeedReader.Proofs.Cache.Tables
import Mathlib.Data.Finset.Card
import Mathlib.Data.List.Perm.Basic

/-!
# What is dropped when a list is replaced

Replacing the list of a key drops *every* row to which no link is left, not only rows that the key
had. That these are the same rows is a matter of the whole history of the tables: **no row is ever
without a link**, `FeedReader.Tables.WellFormed`, so a row can lose its last link only by being
listed under the key and under no other. What is dropped are therefore exactly the *orphans*, the
stories that the key alone has listed and that the batch does not bring
(`FeedReader.Tables.WellFormed.replace?_eq_some`).

The invariant says the rest of what the tables are worth: each link leads to a row, a key links a
story once, and **the positions under a key are counted without gaps from 0**. While a list is being
replaced there are rows without links. `FeedReader.Tables.Sound` is the part of the invariant that
holds even then, and dropping rows restores the other part.
-/

namespace FeedReader

namespace Tables

/-! ### Acts -/

/-- What may be done to the tables. -/
inductive Act
  | save (key : String) (batch : List Story)
  | replace (key : String) (batch : List Story)
  /-- Other stories are refused from now on. -/
  | refuse (ids : List StoryId)
deriving DecidableEq, Repr

/-- The tables after an act, which changes nothing if it fails. -/
def step (t : Tables) : Act → Tables
  | .save key batch => (t.save? key batch).getD t
  | .replace key batch => ((t.replace? key batch).map Replacement.tables).getD t
  | .refuse ids => { t with refused := ids }

/-- The tables after a list of acts. -/
def run (t : Tables) (acts : List Act) : Tables := acts.foldl step t

/-! ### Which stories are stored -/

/-- The ids of the stories that are stored. -/
def rowIds (t : Tables) : List StoryId := t.rows.map Row.id

theorem Writing.rowIds_put (key : String) (w : Writing) (story : Story) :
    (w.put key story).tables.rowIds =
      if story.id ∈ w.tables.rowIds then w.tables.rowIds else w.tables.rowIds ++ [story.id] := by
  rw [rowIds, rows_put, Row.map_id_place]
  rfl

theorem Writing.rowIds_foldl_put (key : String) {w : Writing} (h : w.tables.rowIds.Nodup)
    (batch : List Story) :
    (batch.foldl (Writing.put key) w).tables.rowIds =
      (w.tables.rowIds ++ batch.map Story.id).eraseDups := by
  induction batch generalizing w with
  | nil => rw [List.map_nil, List.append_nil, eraseDups_eq_self h, List.foldl_nil]
  | cons story batch ih =>
    have hnodup : (w.put key story).tables.rowIds.Nodup := by
      rw [rowIds_put]
      split
      · exact h
      · next hnew => simpa using h.concat hnew
    rw [List.foldl_cons, ih hnodup, rowIds_put, List.map_cons, eraseDups_append_cons]

/-- A batch stores its new stories behind those that are stored. -/
theorem rowIds_putAll {t : Tables} (h : t.rowIds.Nodup) (key : String) (batch : List Story) :
    (t.putAll key batch).rowIds = (t.rowIds ++ batch.map Story.id).eraseDups :=
  Writing.rowIds_foldl_put key (w := ⟨t, t.nextPosition key⟩) h batch

theorem exists_link_iff {t : Tables} {id : StoryId} :
    (∃ link ∈ t.links, link.id = id) ↔ ∃ key, id ∈ t.linkedIds key := by
  constructor
  · rintro ⟨link, hlink, hid⟩
    exact ⟨link.key, mem_linkedIds.mpr ⟨link, hlink, hid, rfl⟩⟩
  · rintro ⟨key, hid⟩
    obtain ⟨link, hlink, hid, -⟩ := mem_linkedIds.mp hid
    exact ⟨link, hlink, hid⟩

theorem mem_linkedIds_unlink {t : Tables} {key key' : String} {id : StoryId} :
    id ∈ (t.unlink key).linkedIds key' ↔ key' ≠ key ∧ id ∈ t.linkedIds key' := by
  by_cases hkey : key' = key
  · rw [hkey, linkedIds, linksOf_unlink]
    simp
  · rw [linkedIds, linksOf_unlink_of_ne hkey]
    simp [hkey, linkedIds]

theorem rowIds_evict (t : Tables) :
    t.evict.rowIds = t.rowIds.filter fun id => t.links.any fun link => link.id = id := by
  rw [rowIds, evict, rowIds, List.filter_map]
  rfl

/-- What is not dropped is what has a link. -/
theorem mem_rowIds_evict {t : Tables} {id : StoryId} :
    id ∈ t.evict.rowIds ↔ id ∈ t.rowIds ∧ ∃ key, id ∈ t.linkedIds key := by
  rw [rowIds_evict, List.mem_filter, ← exists_link_iff]
  simp

/-! ### Positions -/

/-- The positions under a key are 0, 1, 2 and so on, in the order of the links. -/
def Numbered (t : Tables) (key : String) : Prop :=
  (t.linksOf key).map Link.position = List.range (t.linksOf key).length

namespace Numbered

variable {t : Tables} {key : String}

theorem congr {t' : Tables} (h : t.Numbered key) (hlinks : t'.linksOf key = t.linksOf key) :
    t'.Numbered key := by
  rw [Numbered, hlinks]
  exact h

/-- The next position is the number of links. -/
theorem nextPosition (h : t.Numbered key) : t.nextPosition key = (t.linksOf key).length := by
  have hcount : ∀ n, (List.range n).foldl (fun next position => max next (position + 1)) 0 = n := by
    intro n
    induction n with
    | zero => rfl
    | succ n ih => rw [List.range_succ, List.foldl_append, ih, List.foldl_cons, List.foldl_nil,
        Nat.max_eq_right (Nat.le_succ n)]
  have hfold := hcount (t.linksOf key).length
  rw [← h, List.foldl_map] at hfold
  exact hfold

theorem increasing (h : t.Numbered key) :
    (t.linksOf key).Pairwise fun a b => a.position < b.position := by
  rw [← List.pairwise_map (f := Link.position), h]
  exact List.pairwise_lt_range

end Numbered

/-- The links of the key that is written are counted, and the next position is their number. -/
structure Writing.Counted (key : String) (w : Writing) : Prop where
  numbered : w.tables.Numbered key
  next : w.next = (w.tables.linksOf key).length

namespace Writing.Counted

variable {key : String} {w : Writing}

theorem put (h : w.Counted key) (story : Story) : (w.put key story).Counted key := by
  have hlinks := w.linksOf_put key story
  have hnext := w.next_put key story
  by_cases hlinked : story.id ∈ w.tables.linkedIds key
  · rw [if_pos hlinked] at hlinks hnext
    constructor
    · exact h.numbered.congr hlinks
    · rw [hnext, hlinks]
      exact h.next
  · rw [if_neg hlinked] at hlinks hnext
    constructor
    · rw [Numbered, hlinks, List.map_append, h.numbered, List.length_append, List.length_singleton,
        List.range_succ, ← h.next]
      rfl
    · rw [hnext, hlinks, List.length_append, List.length_singleton, h.next]

theorem foldl_put (h : w.Counted key) (batch : List Story) :
    (batch.foldl (Writing.put key) w).Counted key := by
  induction batch generalizing w with
  | nil => exact h
  | cons story batch ih => exact ih (h.put story)

end Writing.Counted

theorem Numbered.putAll {t : Tables} {key : String} (h : t.Numbered key) (batch : List Story) :
    (t.putAll key batch).Numbered key :=
  (Writing.Counted.foldl_put (w := ⟨t, t.nextPosition key⟩) ⟨h, h.nextPosition⟩ batch).numbered

/-! ### The invariant -/

/-- Tables in which every link leads to a row. -/
structure Sound (t : Tables) : Prop where
  rows : t.rowIds.Nodup
  stored : ∀ key, ∀ id ∈ t.linkedIds key, id ∈ t.rowIds
  linked : ∀ key, (t.linkedIds key).Nodup
  numbered : ∀ key, t.Numbered key

namespace Sound

variable {t : Tables}

theorem ordered (h : t.Sound) (key : String) : t.Ordered key :=
  ⟨(h.numbered key).increasing, h.linked key⟩

/-- Where the links of one key are written, the others are numbered as they were. -/
theorem write (h : t.Sound) {t' : Tables} {key : String} (hrows : t'.rowIds.Nodup)
    (hstored : ∀ key', ∀ id ∈ t'.linkedIds key', id ∈ t'.rowIds)
    (hother : ∀ key', key' ≠ key → t'.linksOf key' = t.linksOf key')
    (hlinked : (t'.linkedIds key).Nodup) (hnumbered : t'.Numbered key) : t'.Sound := by
  refine ⟨hrows, hstored, fun key' => ?_, fun key' => ?_⟩
  · by_cases hkey : key' = key
    · rw [hkey]
      exact hlinked
    · rw [linkedIds, hother key' hkey]
      exact h.linked key'
  · by_cases hkey : key' = key
    · rw [hkey]
      exact hnumbered
    · exact (h.numbered key').congr (hother key' hkey)

theorem unlink (h : t.Sound) (key : String) : (t.unlink key).Sound := by
  have hnone : (t.unlink key).linksOf key = [] := linksOf_unlink
  refine h.write h.rows ?_ (fun _ hne => linksOf_unlink_of_ne hne) ordered_unlink.nodup ?_
  · exact fun key' id hid => h.stored key' id (mem_linkedIds_unlink.mp hid).2
  · rw [Numbered, hnone]
    rfl

/-- What a key lists after a batch has been put under some key. -/
theorem mem_linkedIds_putAll (h : t.Sound) {key : String} {batch : List Story} {key' : String}
    {id : StoryId} :
    id ∈ (t.putAll key batch).linkedIds key' ↔
      id ∈ t.linkedIds key' ∨ key' = key ∧ id ∈ batch.map Story.id := by
  by_cases hkey : key' = key
  · rw [hkey, linkedIds_putAll batch (h.ordered key), List.mem_eraseDups, List.mem_append]
    simp
  · rw [linkedIds, t.linksOf_putAll_of_ne key batch hkey]
    simp [hkey, linkedIds]

theorem mem_rowIds_putAll (h : t.Sound) {key : String} {batch : List Story} {id : StoryId} :
    id ∈ (t.putAll key batch).rowIds ↔ id ∈ t.rowIds ∨ id ∈ batch.map Story.id := by
  rw [rowIds_putAll h.rows, List.mem_eraseDups, List.mem_append]

theorem putAll (h : t.Sound) (key : String) (batch : List Story) : (t.putAll key batch).Sound := by
  refine h.write ?_ ?_ (fun _ hne => t.linksOf_putAll_of_ne key batch hne)
    ((h.ordered key).putAll batch).nodup ((h.numbered key).putAll batch)
  · rw [rowIds_putAll h.rows]
    exact nodup_eraseDups _
  · intro key' id hid
    rw [h.mem_rowIds_putAll]
    exact (h.mem_linkedIds_putAll.mp hid).imp (h.stored key' id) And.right

theorem evict (h : t.Sound) : t.evict.Sound := by
  constructor
  · rw [rowIds_evict]
    exact h.rows.filter _
  · exact fun key id hid => mem_rowIds_evict.mpr ⟨h.stored key id hid, key, hid⟩
  · exact h.linked
  · exact h.numbered

end Sound

/-- **Tables as they are between two batches**: links lead to rows, and rows have links. -/
structure WellFormed (t : Tables) : Prop extends t.Sound where
  kept : ∀ id ∈ t.rowIds, ∃ key, id ∈ t.linkedIds key

/-- The stories that a key alone lists and that a batch does not bring. -/
def orphans (t : Tables) (key : String) (batch : List Story) : List StoryId :=
  (t.linkedIds key).filter fun id =>
    (∀ link ∈ t.links, link.id = id → link.key = key) ∧ id ∉ batch.map Story.id

theorem mem_orphans {t : Tables} {key : String} {batch : List Story} {id : StoryId} :
    id ∈ t.orphans key batch ↔
      id ∈ t.linkedIds key ∧ (∀ link ∈ t.links, link.id = id → link.key = key) ∧
        id ∉ batch.map Story.id := by
  rw [orphans, List.mem_filter, decide_eq_true_eq]

namespace WellFormed

variable {t : Tables}

theorem empty : WellFormed {} := by
  refine ⟨⟨List.nodup_nil, ?_, ?_, ?_⟩, ?_⟩
  · exact fun _ _ hid => absurd hid List.not_mem_nil
  · exact fun _ => List.nodup_nil
  · exact fun _ => rfl
  · exact fun _ hid => absurd hid List.not_mem_nil

theorem putAll (h : t.WellFormed) (key : String) (batch : List Story) :
    (t.putAll key batch).WellFormed := by
  refine ⟨h.toSound.putAll key batch, fun id hid => ?_⟩
  rcases h.mem_rowIds_putAll.mp hid with hold | hnew
  · obtain ⟨key', hkey'⟩ := h.kept id hold
    exact ⟨key', h.mem_linkedIds_putAll.mpr (.inl hkey')⟩
  · exact ⟨key, h.mem_linkedIds_putAll.mpr (.inr ⟨rfl, hnew⟩)⟩

protected theorem replaced (h : t.WellFormed) (key : String) (batch : List Story) :
    (t.replaced key batch).WellFormed := by
  have hwritten : ((t.unlink key).putAll key batch).Sound := (h.unlink key).putAll key batch
  exact ⟨hwritten.evict, fun id hid => (mem_rowIds_evict.mp hid).2⟩

theorem step (h : t.WellFormed) (act : Act) : (t.step act).WellFormed := by
  cases act with
  | save key batch =>
    rw [Tables.step, save?_eq]
    split
    · exact h
    · exact h.putAll key batch
  | replace key batch =>
    rw [Tables.step, replace?_eq]
    split
    · exact h
    · exact h.replaced key batch
  | refuse ids => exact ⟨⟨h.rows, h.stored, h.linked, h.numbered⟩, h.kept⟩

theorem run (h : t.WellFormed) (acts : List Act) : (t.run acts).WellFormed := by
  induction acts generalizing t with
  | nil => exact h
  | cons act acts ih => exact ih (h.step act)

/-- As many stories are stored as different ids are linked. -/
theorem storyCount (h : t.WellFormed) : t.storyCount = (t.links.map Link.id).toFinset.card := by
  have hsame : (t.links.map Link.id).toFinset = t.rowIds.toFinset := by
    ext id
    rw [List.mem_toFinset, List.mem_toFinset, List.mem_map, exists_link_iff]
    constructor
    · rintro ⟨key, hid⟩
      exact h.stored key id hid
    · exact h.kept id
  rw [hsame, List.toFinset_card_of_nodup h.rows, rowIds, List.length_map]
  rfl

end WellFormed

/-! ### What a replacement drops -/

theorem sortedLinks_congr {t t' : Tables} {key : String} (h : t'.linksOf key = t.linksOf key) :
    t'.sortedLinks key = t.sortedLinks key := by
  rw [sortedLinks, h, sortedLinks]

theorem of_replace?_eq_some {t : Tables} {key : String} {batch : List Story} {r : Replacement}
    (h : t.replace? key batch = some r) :
    r.tables = t.replaced key batch ∧ r.unlinked = (t.linkedIds key).length ∧
      r.evicted =
        ((t.unlink key).putAll key batch).rowIds.length - (t.replaced key batch).rowIds.length := by
  rw [replace?, putAll?_eq] at h
  obtain ⟨written, hwritten, h⟩ := Option.bind_eq_some_iff.mp h
  split at hwritten
  · cases hwritten
  · obtain rfl := Option.some.inj hwritten
    obtain rfl := Option.some.inj h
    simp [replaced, linkedIds, rowIds]

section Replaced

variable {t : Tables} (h : t.WellFormed) (key : String) (batch : List Story)
include h

/-- **The orphans are dropped, and no other story.** -/
theorem WellFormed.mem_rowIds_replaced {id : StoryId} :
    id ∈ (t.replaced key batch).rowIds ↔
      id ∈ t.rowIds ∧ id ∉ t.orphans key batch ∨ id ∈ batch.map Story.id := by
  have hsound := h.unlink key
  rw [replaced, mem_rowIds_evict, hsound.mem_rowIds_putAll]
  simp only [hsound.mem_linkedIds_putAll, mem_linkedIds_unlink]
  constructor
  · rintro ⟨hrow | hnew, key', hlinked⟩
    · by_cases hbatch : id ∈ batch.map Story.id
      · exact .inr hbatch
      · -- The link that keeps the story is under another key.
        obtain ⟨hne, hid⟩ := hlinked.resolve_right fun hkey => hbatch hkey.2
        obtain ⟨link, hlink, hlinkId, rfl⟩ := mem_linkedIds.mp hid
        exact .inl ⟨hrow, fun horphan => hne ((mem_orphans.mp horphan).2.1 link hlink hlinkId)⟩
    · exact .inr hnew
  · rintro (⟨hrow, hnot⟩ | hnew)
    · by_cases hbatch : id ∈ batch.map Story.id
      · exact ⟨.inl hrow, key, .inr ⟨rfl, hbatch⟩⟩
      · -- The story has a link, and if all its links were under the key, it would be an orphan.
        obtain ⟨held, hheld, hid⟩ := exists_link_iff.mpr (h.kept id hrow)
        have hother : ∃ link ∈ t.links, link.id = id ∧ link.key ≠ key := by
          by_contra hnone
          have halone : ∀ link ∈ t.links, link.id = id → link.key = key :=
            fun link hlink hlinkId =>
              of_not_not fun hne => hnone ⟨link, hlink, hlinkId, hne⟩
          have hlisted := mem_linkedIds.mpr ⟨held, hheld, hid, halone held hheld hid⟩
          exact hnot (mem_orphans.mpr ⟨hlisted, halone, hbatch⟩)
        obtain ⟨link, hlink, hlinkId, hne⟩ := hother
        exact ⟨.inl hrow, link.key, .inl ⟨hne, mem_linkedIds.mpr ⟨link, hlink, hlinkId, rfl⟩⟩⟩
    · exact ⟨.inr hnew, key, .inr ⟨rfl, hnew⟩⟩

theorem WellFormed.nodup_orphans : (t.orphans key batch).Nodup := (h.linked key).filter _

theorem WellFormed.mem_rowIds_of_mem_orphans {id : StoryId} (hid : id ∈ t.orphans key batch) :
    id ∈ t.rowIds :=
  h.stored key id (mem_orphans.mp hid).1

/-- What is stored once the batch has been written is what is kept then and the orphans. -/
theorem WellFormed.rowIds_written_perm :
    ((t.unlink key).putAll key batch).rowIds.Perm
      ((t.replaced key batch).rowIds ++ t.orphans key batch) := by
  have hsound := h.unlink key
  have hdisjoint : ∀ id ∈ (t.replaced key batch).rowIds, ∀ id' ∈ t.orphans key batch,
      id ≠ id' := by
    rintro id hid _ horphan rfl
    rcases (h.mem_rowIds_replaced key batch).mp hid with ⟨-, hnot⟩ | hbatch
    · exact hnot horphan
    · exact (mem_orphans.mp horphan).2.2 hbatch
  refine (List.perm_ext_iff_of_nodup (hsound.putAll key batch).rows ?_).mpr fun id => ?_
  · exact List.nodup_append.mpr
      ⟨(h.replaced key batch).rows, h.nodup_orphans key batch, hdisjoint⟩
  · rw [hsound.mem_rowIds_putAll, List.mem_append, h.mem_rowIds_replaced]
    constructor
    · rintro (hrow | hnew)
      · by_cases horphan : id ∈ t.orphans key batch
        · exact .inr horphan
        · exact .inl (.inl ⟨hrow, horphan⟩)
      · exact .inl (.inr hnew)
    · rintro ((⟨hrow, -⟩ | hnew) | horphan)
      · exact .inl hrow
      · exact .inr hnew
      · exact .inl (h.mem_rowIds_of_mem_orphans key batch horphan)

variable {key batch}

/-- **The numbers that a replacement returns.** -/
theorem WellFormed.replace?_eq_some {r : Replacement} (hr : t.replace? key batch = some r) :
    r.tables = t.replaced key batch ∧ r.unlinked = (t.linkedIds key).length ∧
      r.evicted = (t.orphans key batch).length := by
  obtain ⟨htables, hunlinked, hevicted⟩ := of_replace?_eq_some hr
  have hcount := (h.rowIds_written_perm key batch).length_eq
  rw [List.length_append] at hcount
  refine ⟨htables, hunlinked, ?_⟩
  omega

/-- A story is dropped exactly if it is an orphan. -/
theorem WellFormed.mem_orphans_iff {id : StoryId} :
    id ∈ t.orphans key batch ↔ id ∈ t.rowIds ∧ id ∉ (t.replaced key batch).rowIds := by
  rw [h.mem_rowIds_replaced]
  constructor
  · intro horphan
    refine ⟨h.mem_rowIds_of_mem_orphans key batch horphan, ?_⟩
    rintro (⟨-, hnot⟩ | hbatch)
    · exact hnot horphan
    · exact (mem_orphans.mp horphan).2.2 hbatch
  · rintro ⟨hrow, hnot⟩
    by_contra horphan
    exact hnot (.inl ⟨hrow, horphan⟩)

end Replaced

theorem isSome_save?_iff {t : Tables} {key : String} {batch : List Story} :
    (t.save? key batch).isSome ↔ ∀ story ∈ batch, story.id ∉ t.refused := by
  rw [save?_eq, ← refuses_eq_false]
  cases t.refuses batch <;> simp

theorem isSome_replace?_iff {t : Tables} {key : String} {batch : List Story} :
    (t.replace? key batch).isSome ↔ ∀ story ∈ batch, story.id ∉ t.refused := by
  rw [← Option.isSome_map (f := Replacement.tables), replace?_eq, ← refuses_eq_false]
  cases t.refuses batch <;> simp

/-- **Eviction is exact, and links stay in order.** Whatever batches have been saved and replaced
under whatever keys, and whichever of them have failed at one of their stories: the stored stories
are those that have a link, the links of each key are counted without gaps and lead to different
stories, and there are as many stories as different ids that are linked. A batch fails exactly if
one of its stories is refused. If it does not, its stories are listed behind those of the key or in
their place, and the lists of other keys are left alone. Saving drops no story; replacing returns
the number of stories that the key has listed and the number of those that no other key lists and
the batch does not bring, and these are the stories that are dropped. -/
theorem eviction_exact (acts : List Act) :
    let t := ({} : Tables).run acts
    t.rowIds.Nodup ∧ (∀ id, id ∈ t.rowIds ↔ ∃ link ∈ t.links, link.id = id) ∧
      (∀ key,
        (t.sortedLinks key).map Link.position = List.range (t.sortedLinks key).length ∧
          ((t.sortedLinks key).map Link.id).Nodup) ∧
      t.storyCount = (t.links.map Link.id).toFinset.card ∧
      ∀ key batch,
        ((t.save? key batch).isSome ↔ ∀ story ∈ batch, story.id ∉ t.refused) ∧
          ((t.replace? key batch).isSome ↔ ∀ story ∈ batch, story.id ∉ t.refused) ∧
          (∀ t' ∈ t.save? key batch,
            (t'.sortedLinks key).map Link.id =
                ((t.sortedLinks key).map Link.id ++ batch.map Story.id).eraseDups ∧
              t.rowIds ⊆ t'.rowIds ∧
              ∀ key', key' ≠ key → t'.sortedLinks key' = t.sortedLinks key') ∧
          ∀ r ∈ t.replace? key batch,
            (r.tables.sortedLinks key).map Link.id = (batch.map Story.id).eraseDups ∧
              r.unlinked = (t.sortedLinks key).length ∧
              (∃ dropped : List StoryId,
                dropped.Nodup ∧ r.evicted = dropped.length ∧
                  (∀ id, id ∈ dropped ↔
                    (∃ link ∈ t.links, link.id = id ∧ link.key = key) ∧
                      (∀ link ∈ t.links, link.id = id → link.key = key) ∧
                      id ∉ batch.map Story.id) ∧
                  ∀ id, id ∈ dropped ↔ id ∈ t.rowIds ∧ id ∉ r.tables.rowIds) ∧
              ∀ key', key' ≠ key → r.tables.sortedLinks key' = t.sortedLinks key' := by
  intro t
  have h : t.WellFormed := WellFormed.empty.run acts
  refine ⟨h.rows, fun id => ?_, fun key => ?_, h.storyCount, fun key batch =>
    ⟨isSome_save?_iff, isSome_replace?_iff, fun t' hsaved => ?_, fun r hreplaced => ?_⟩⟩
  · rw [exists_link_iff]
    constructor
    · exact h.kept id
    · rintro ⟨key, hid⟩
      exact h.stored key id hid
  · rw [(h.ordered key).sortedLinks]
    exact ⟨h.numbered key, h.linked key⟩
  · rw [Option.mem_def, save?_eq] at hsaved
    split at hsaved
    · cases hsaved
    · obtain rfl := Option.some.inj hsaved
      refine ⟨?_, fun id hid => h.mem_rowIds_putAll.mpr (.inl hid), fun key' hne => ?_⟩
      · rw [((h.putAll key batch).ordered key).sortedLinks, (h.ordered key).sortedLinks]
        exact linkedIds_putAll batch (h.ordered key)
      · exact sortedLinks_congr (t.linksOf_putAll_of_ne key batch hne)
  · obtain ⟨htables, hunlinked, hevicted⟩ := h.replace?_eq_some hreplaced
    refine ⟨?_, ?_, ⟨t.orphans key batch, h.nodup_orphans key batch, hevicted, fun id => ?_,
      fun id => ?_⟩, fun key' hne => ?_⟩
    · rw [htables, (t.ordered_replaced key batch).sortedLinks]
      exact t.linkedIds_replaced key batch
    · rw [hunlinked, (h.ordered key).sortedLinks, linkedIds, List.length_map]
    · rw [mem_orphans, mem_linkedIds]
    · rw [htables]
      exact h.mem_orphans_iff
    · rw [htables]
      exact sortedLinks_congr (t.linksOf_replaced_of_ne key batch hne)

/-- Two keys that share a story. Replacing the list of one of them has failed at the second story
of the batch. -/
def sharedLists : List Act :=
  [.save "feed:1" [{ id := ⟨"a"⟩, feedId := 1, title := "a" },
      { id := ⟨"b"⟩, feedId := 1, title := "b" }],
    .save "river:1,2" [{ id := ⟨"b"⟩, feedId := 1, title := "b" },
      { id := ⟨"c"⟩, feedId := 2, title := "c" }],
    .refuse [⟨"d"⟩],
    .replace "feed:1" [{ id := ⟨"e"⟩, feedId := 1, title := "e" },
      { id := ⟨"d"⟩, feedId := 1, title := "d" }]]

theorem eviction_exact_shared :
    let t := ({} : Tables).run sharedLists
    t.storyCount = 3 ∧
      ∃ r, t.replace? "feed:1" [{ id := ⟨"e"⟩, feedId := 1, title := "e" }] = some r ∧
        r.unlinked = 2 ∧ r.evicted = 1 ∧
        (r.tables.sortedLinks "river:1,2").map Link.id = [⟨"b"⟩, ⟨"c"⟩] := by
  intro t
  obtain ⟨-, -, -, hcount, hbatches⟩ := eviction_exact sharedLists
  obtain ⟨-, hfails, -, hreplaced⟩ :=
    hbatches "feed:1" [{ id := ⟨"e"⟩, feedId := 1, title := "e" }]
  obtain ⟨r, hr⟩ := Option.isSome_iff_exists.mp (hfails.mpr (by decide +kernel))
  obtain ⟨-, hunlinked, -, hother⟩ := hreplaced r hr
  have hevicted : (t.replace? "feed:1" [{ id := ⟨"e"⟩, feedId := 1, title := "e" }]).map
      Replacement.evicted = some 1 := by decide +kernel
  refine ⟨hcount.trans (by decide +kernel), r, hr, hunlinked.trans (by decide +kernel), ?_, ?_⟩
  · rw [hr] at hevicted
    exact Option.some.inj hevicted
  · rw [hother "river:1,2" (by decide)]
    decide +kernel

end Tables

end FeedReader
