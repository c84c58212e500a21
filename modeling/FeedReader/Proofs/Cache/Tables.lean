import FeedReader.Cache.Tables
import FeedReader.Proofs.Json.TextList
import FeedReader.Proofs.Story.Collection

/-!
# What the tables hold once a batch has been written

A batch is written story by story, and the tables are read by position. Neither matters to
whoever uses them: what counts is which stories a key lists, in which order, and which row a
story has. Both are said here for each way of writing, **under the key that is written and
under all others**.

* Writing a batch succeeds exactly if no story of it is refused, and then the rows of its
  stories are those of their last copies (`FeedReader.Tables.row?_putAll`).
* Saving lists the new stories of the batch behind those that were listed
  (`FeedReader.Tables.linkedIds_putAll`), replacing lists those of the batch alone
  (`FeedReader.Tables.linkedIds_replaced`).

Positions are numbered so that links stand in the tables in the order in which they are
listed. That invariant, `FeedReader.Tables.Ordered`, is all that there is to know of them.
-/

namespace FeedReader

/-- A story with its score brought onto the scale. -/
def Story.onScale (story : Story) : Story := { story with score := max (-1) (min 1 story.score) }

/-- **A row gives back its story**, but for a score beyond the scale. -/
theorem Row.toStory_ofStory (story : Story) : (Row.ofStory story).toStory = story.onScale := by
  simp [Row.toStory, Row.ofStory, Story.onScale, Json.textList?_ofTextList]

namespace Row

theorem place_eq_placeBy (row : Row) (held : List Row) :
    place row held = placeBy Row.id row held := by
  induction held with
  | nil => rfl
  | cons first rest ih => rw [place, placeBy, ih]

theorem map_id_place (row : Row) (held : List Row) :
    (place row held).map Row.id =
      if row.id ∈ held.map Row.id then held.map Row.id else held.map Row.id ++ [row.id] := by
  rw [place_eq_placeBy, map_placeBy]

theorem find?_place (row : Row) (held : List Row) (id : StoryId) :
    (place row held).find? (fun r => r.id = id) =
      if row.id = id then some row else held.find? (fun r => r.id = id) := by
  rw [place_eq_placeBy, find?_placeBy]

end Row

namespace Tables

/-! ### The order of the links -/

/-- The ids of the stories that are linked to a key, as the links stand in the tables. -/
def linkedIds (t : Tables) (key : String) : List StoryId := (t.linksOf key).map Link.id

/-- The links of a key stand in the order of their positions, and link each story once. -/
structure Ordered (t : Tables) (key : String) : Prop where
  increasing : (t.linksOf key).Pairwise fun a b => a.position < b.position
  nodup : (t.linkedIds key).Nodup

theorem foldr_insertLink {links : List Link}
    (h : links.Pairwise fun a b => a.position < b.position) :
    links.foldr insertLink [] = links := by
  induction links with
  | nil => rfl
  | cons first rest ih =>
    obtain ⟨hfirst, hrest⟩ := List.pairwise_cons.mp h
    rw [List.foldr_cons, ih hrest]
    cases rest with
    | nil => rfl
    | cons second rest =>
      have hle : first.position ≤ second.position := Nat.le_of_lt (hfirst second (by simp))
      rw [insertLink, if_pos hle]

/-- Links that are in order are listed as they stand. -/
theorem Ordered.sortedLinks {t : Tables} {key : String} (h : t.Ordered key) :
    t.sortedLinks key = t.linksOf key :=
  foldr_insertLink h.increasing

theorem mem_linkedIds {t : Tables} {key : String} {id : StoryId} :
    id ∈ t.linkedIds key ↔ ∃ link ∈ t.links, link.id = id ∧ link.key = key := by
  simp only [linkedIds, linksOf, List.mem_map, List.mem_filter, decide_eq_true_eq]
  constructor
  · rintro ⟨link, ⟨hlink, hkey⟩, hid⟩
    exact ⟨link, hlink, hid, hkey⟩
  · rintro ⟨link, hlink, hid, hkey⟩
    exact ⟨link, ⟨hlink, hkey⟩, hid⟩

theorem isLinked_iff (t : Tables) (key : String) (id : StoryId) :
    t.isLinked key id = true ↔ id ∈ t.linkedIds key := by
  simp only [mem_linkedIds, isLinked, List.any_eq_true, decide_eq_true_eq]

theorem lt_nextPosition {t : Tables} {key : String} {link : Link} (h : link ∈ t.linksOf key) :
    link.position < t.nextPosition key := by
  -- The count begins where the links before have left it, and it never goes back.
  have hfold : ∀ (links : List Link) (next : Nat),
      next ≤ links.foldl (fun next link => max next (link.position + 1)) next ∧
        ∀ link ∈ links,
          link.position < links.foldl (fun next link => max next (link.position + 1)) next := by
    intro links
    induction links with
    | nil => intro next; simp
    | cons first rest ih =>
      intro next
      obtain ⟨hle, hlt⟩ := ih (max next (first.position + 1))
      rw [List.foldl_cons]
      refine ⟨by omega, List.forall_mem_cons.mpr ⟨by omega, hlt⟩⟩
  exact (hfold (t.linksOf key) 0).2 link h

/-! ### Writing one story -/

/-- Whether some story of a batch is refused. -/
def refuses (t : Tables) (batch : List Story) : Bool := batch.any fun story => story.id ∈ t.refused

theorem refuses_eq_false {t : Tables} {batch : List Story} :
    t.refuses batch = false ↔ ∀ story ∈ batch, story.id ∉ t.refused := by
  simp [refuses]

/-- Stores the row of a story, and links it unless it is linked already. Nothing is refused. -/
def Writing.put (key : String) (w : Writing) (story : Story) : Writing :=
  let rows := Row.place (.ofStory story) w.tables.rows
  if w.tables.isLinked key story.id then { w with tables := { w.tables with rows } }
  else
    let links := w.tables.links ++ [⟨key, story.id, w.next⟩]
    ⟨{ w.tables with rows, links }, w.next + 1⟩

/-- The links of the key that is written are in order, and the next position is behind them. -/
structure Writing.Ready (key : String) (w : Writing) : Prop where
  ordered : w.tables.Ordered key
  below : ∀ link ∈ w.tables.linksOf key, link.position < w.next

namespace Writing

variable (key : String) (w : Writing) (story : Story)

theorem put?_eq :
    w.put? key story =
      if story.id ∈ w.tables.refused then none else some (w.put key story) := by
  unfold put? put
  split
  · rfl
  · simp only
    split <;> rfl

theorem refused_put : (w.put key story).tables.refused = w.tables.refused := by
  unfold put
  simp only
  split <;> rfl

theorem rows_put :
    (w.put key story).tables.rows = Row.place (.ofStory story) w.tables.rows := by
  unfold put
  simp only
  split <;> rfl

theorem row?_put (id : StoryId) :
    (w.put key story).tables.row? id =
      if story.id = id then some (.ofStory story) else w.tables.row? id := by
  rw [row?, rows_put, Row.find?_place]
  rfl

theorem linksOf_put :
    (w.put key story).tables.linksOf key =
      if story.id ∈ w.tables.linkedIds key then w.tables.linksOf key
      else w.tables.linksOf key ++ [⟨key, story.id, w.next⟩] := by
  by_cases hlinked : story.id ∈ w.tables.linkedIds key
  · rw [if_pos hlinked, put]
    simp only [(w.tables.isLinked_iff key story.id).mpr hlinked, if_true]
    rfl
  · have hnot : w.tables.isLinked key story.id = false :=
      Bool.eq_false_iff.mpr (mt (w.tables.isLinked_iff key story.id).mp hlinked)
    rw [if_neg hlinked, put]
    simp [hnot, linksOf]

/-- A position is used up exactly if a link is added. -/
theorem next_put :
    (w.put key story).next = if story.id ∈ w.tables.linkedIds key then w.next else w.next + 1 := by
  by_cases hlinked : story.id ∈ w.tables.linkedIds key
  · rw [if_pos hlinked, put]
    simp only [(w.tables.isLinked_iff key story.id).mpr hlinked, if_true]
  · have hnot : w.tables.isLinked key story.id = false :=
      Bool.eq_false_iff.mpr (mt (w.tables.isLinked_iff key story.id).mp hlinked)
    rw [if_neg hlinked, put]
    simp [hnot]

theorem linksOf_put_of_ne {key' : String} (h : key' ≠ key) :
    (w.put key story).tables.linksOf key' = w.tables.linksOf key' := by
  unfold put
  simp only
  split
  · rfl
  · have hne : key ≠ key' := h.symm
    simp [linksOf, hne]

theorem linkedIds_put :
    (w.put key story).tables.linkedIds key =
      if story.id ∈ w.tables.linkedIds key then w.tables.linkedIds key
      else w.tables.linkedIds key ++ [story.id] := by
  rw [linkedIds, linksOf_put]
  split
  · rfl
  · rw [List.map_append]
    rfl

variable {key w}

theorem Ready.put (h : w.Ready key) (story : Story) : (w.put key story).Ready key := by
  by_cases hlinked : story.id ∈ w.tables.linkedIds key
  · -- The story keeps its link, and no position is used up.
    have hlinks := w.linksOf_put key story
    have hnext := w.next_put key story
    rw [if_pos hlinked] at hlinks hnext
    refine ⟨⟨?_, ?_⟩, ?_⟩
    · rw [hlinks]
      exact h.ordered.increasing
    · rw [linkedIds, hlinks]
      exact h.ordered.nodup
    · rw [hlinks, hnext]
      exact h.below
  · -- The new link goes behind all others, and the next position behind it.
    have hlinks := w.linksOf_put key story
    have hnext := w.next_put key story
    rw [if_neg hlinked] at hlinks hnext
    refine ⟨⟨?_, ?_⟩, ?_⟩
    · rw [hlinks, List.pairwise_append]
      refine ⟨h.ordered.increasing, List.pairwise_singleton _ _, fun a ha b hb => ?_⟩
      rw [List.mem_singleton.mp hb]
      exact h.below a ha
    · rw [linkedIds_put, if_neg hlinked]
      refine List.nodup_append.mpr ⟨h.ordered.nodup, by simp, fun id hid id' hid' heq => ?_⟩
      rw [List.mem_singleton] at hid'
      exact hlinked (hid' ▸ heq ▸ hid)
    · rw [hlinks, hnext]
      refine List.forall_mem_append.mpr ⟨fun link hlink => ?_, List.forall_mem_singleton.mpr ?_⟩
      · exact Nat.lt_succ_of_lt (h.below link hlink)
      · exact Nat.lt_succ_self w.next

/-! ### Writing a batch story by story -/

variable (key w) (batch : List Story)

/-- **A batch is written as a whole or not at all**: not at all if one of its stories is
refused. -/
theorem foldlM_put? :
    batch.foldlM (Writing.put? key) w =
      if w.tables.refuses batch then none else some (batch.foldl (Writing.put key) w) := by
  induction batch generalizing w with
  | nil => rfl
  | cons story batch ih =>
    -- Writing a story does not change what is refused.
    have hrest : (w.put key story).tables.refuses batch = w.tables.refuses batch := by
      rw [refuses, refuses, refused_put]
    rw [List.foldlM_cons, put?_eq]
    by_cases hrefused : story.id ∈ w.tables.refused
    · have hall : w.tables.refuses (story :: batch) = true := by simp [refuses, hrefused]
      rw [if_pos hrefused, if_pos hall]
      rfl
    · have hall : w.tables.refuses (story :: batch) = w.tables.refuses batch := by
        simp [refuses, hrefused]
      rw [if_neg hrefused, hall, ← hrest]
      exact ih (w.put key story)

theorem row?_foldl_put (id : StoryId) :
    (batch.foldl (Writing.put key) w).tables.row? id =
      ((lastCopy? id batch).map Row.ofStory).or (w.tables.row? id) := by
  induction batch generalizing w with
  | nil => simp
  | cons story batch ih =>
    rw [List.foldl_cons, ih, row?_put, lastCopy?_cons]
    cases lastCopy? id batch with
    | some copy => rfl
    | none => by_cases hid : story.id = id <;> simp [hid]

theorem linksOf_foldl_put_of_ne {key' : String} (h : key' ≠ key) :
    (batch.foldl (Writing.put key) w).tables.linksOf key' = w.tables.linksOf key' := by
  induction batch generalizing w with
  | nil => rfl
  | cons story batch ih => rw [List.foldl_cons, ih, linksOf_put_of_ne key w story h]

variable {key w}

theorem Ready.foldl_put (h : w.Ready key) : (batch.foldl (Writing.put key) w).Ready key := by
  induction batch generalizing w with
  | nil => exact h
  | cons story batch ih => exact ih (h.put story)

theorem linkedIds_foldl_put (h : w.Ready key) :
    (batch.foldl (Writing.put key) w).tables.linkedIds key =
      (w.tables.linkedIds key ++ batch.map Story.id).eraseDups := by
  induction batch generalizing w with
  | nil =>
    rw [List.map_nil, List.append_nil, eraseDups_eq_self h.ordered.nodup]
    rfl
  | cons story batch ih =>
    rw [List.foldl_cons, ih (h.put story), linkedIds_put, List.map_cons, eraseDups_append_cons]

end Writing

/-! ### Saving a batch -/

/-- The tables after a batch has been put under a key, if nothing is refused. -/
def putAll (t : Tables) (key : String) (batch : List Story) : Tables :=
  (batch.foldl (Writing.put key) ⟨t, t.nextPosition key⟩).tables

variable (t : Tables) (key : String) (batch : List Story)

theorem putAll?_eq :
    t.putAll? key batch = if t.refuses batch then none else some (t.putAll key batch) := by
  rw [putAll?, Writing.foldlM_put?]
  split <;> rfl

theorem save?_eq :
    t.save? key batch = if t.refuses batch then none else some (t.putAll key batch) := by
  rw [save?]
  split
  · next hempty =>
    obtain rfl := List.isEmpty_iff.mp hempty
    rfl
  · exact t.putAll?_eq key batch

/-- **A story that is written has the row of its last copy**, and others have the row they
had. -/
theorem row?_putAll (id : StoryId) :
    (t.putAll key batch).row? id = ((lastCopy? id batch).map Row.ofStory).or (t.row? id) :=
  Writing.row?_foldl_put key _ batch id

theorem linksOf_putAll_of_ne {key' : String} (h : key' ≠ key) :
    (t.putAll key batch).linksOf key' = t.linksOf key' :=
  Writing.linksOf_foldl_put_of_ne key _ batch h

variable {t key}

theorem Ordered.ready (h : t.Ordered key) : Writing.Ready key ⟨t, t.nextPosition key⟩ :=
  ⟨h, fun _ => lt_nextPosition⟩

theorem Ordered.putAll (h : t.Ordered key) : (t.putAll key batch).Ordered key :=
  (h.ready.foldl_put batch).ordered

/-- **The new stories of a batch are listed behind those that were listed**, in the order in
which they occur first. -/
theorem linkedIds_putAll (h : t.Ordered key) :
    (t.putAll key batch).linkedIds key = (t.linkedIds key ++ batch.map Story.id).eraseDups :=
  Writing.linkedIds_foldl_put batch h.ready

/-- Order is a matter of the links of the key alone. -/
theorem Ordered.congr {t' : Tables} (h : t.Ordered key) (hlinks : t'.linksOf key = t.linksOf key) :
    t'.Ordered key := by
  refine ⟨hlinks ▸ h.increasing, ?_⟩
  rw [linkedIds, hlinks]
  exact h.nodup

/-! ### Replacing the list of a key -/

theorem linksOf_unlink : (t.unlink key).linksOf key = [] := by
  simp [linksOf, unlink, List.filter_filter]

theorem linksOf_unlink_of_ne {key' : String} (h : key' ≠ key) :
    (t.unlink key).linksOf key' = t.linksOf key' := by
  simp only [linksOf, unlink, List.filter_filter]
  refine List.filter_congr fun link _ => ?_
  by_cases hkey : link.key = key'
  · simp [hkey, h]
  · simp [hkey]

theorem ordered_unlink : (t.unlink key).Ordered key := by
  constructor
  · rw [linksOf_unlink]
    exact List.Pairwise.nil
  · rw [linkedIds, linksOf_unlink]
    exact List.nodup_nil

/-- A story that is listed somewhere is not dropped. -/
theorem row?_evict {id : StoryId} (h : id ∈ t.linkedIds key) : t.evict.row? id = t.row? id := by
  obtain ⟨link, hlink, rfl⟩ := List.mem_map.mp h
  have hlinked : t.links.any (fun l => l.id = link.id) = true :=
    List.any_eq_true.mpr ⟨link, List.mem_of_mem_filter hlink, decide_eq_true rfl⟩
  simp only [row?, evict, List.find?_filter]
  congr 1
  funext row
  by_cases hrow : row.id = link.id
  · rw [hrow]
    simpa using hlinked
  · simp [hrow]

variable (t key)

/-- The tables after the stories of a key have been replaced by a batch, if nothing is refused. -/
def replaced : Tables := ((t.unlink key).putAll key batch).evict

theorem replace?_eq :
    (t.replace? key batch).map Replacement.tables =
      if t.refuses batch then none else some (t.replaced key batch) := by
  have hrefuses : (t.unlink key).refuses batch = t.refuses batch := rfl
  rw [replace?, putAll?_eq, hrefuses]
  split <;> rfl

theorem ordered_replaced : (t.replaced key batch).Ordered key :=
  (ordered_unlink.putAll batch).congr rfl

/-- **The stories of the batch are listed and no others**, in the order in which they occur
first. -/
theorem linkedIds_replaced :
    (t.replaced key batch).linkedIds key = (batch.map Story.id).eraseDups := by
  have hnone : (t.unlink key).linkedIds key = [] := by rw [linkedIds, linksOf_unlink, List.map_nil]
  have hlisted := linkedIds_putAll (t := t.unlink key) batch ordered_unlink
  rw [hnone, List.nil_append] at hlisted
  exact hlisted

theorem linksOf_replaced_of_ne {key' : String} (h : key' ≠ key) :
    (t.replaced key batch).linksOf key' = t.linksOf key' :=
  ((t.unlink key).linksOf_putAll_of_ne key batch h).trans (linksOf_unlink_of_ne h)

/-- As long as a story is listed somewhere, replacing does with its row what saving does. -/
theorem row?_replaced {key' : String} {id : StoryId}
    (h : id ∈ (t.replaced key batch).linkedIds key') :
    (t.replaced key batch).row? id = ((lastCopy? id batch).map Row.ofStory).or (t.row? id) :=
  (row?_evict (t := (t.unlink key).putAll key batch) h).trans
    ((t.unlink key).row?_putAll key batch id)

/-! ### Reading -/

/-- Where nothing is left out, it does not matter when a list is cut. -/
theorem take_filterMap {α β : Type} {f : α → Option β} {l : List α}
    (h : ∀ a ∈ l, (f a).isSome = true) (n : Nat) :
    (l.filterMap f).take n = (l.take n).filterMap f := by
  induction l generalizing n with
  | nil => simp
  | cons a l ih =>
    obtain ⟨ha, hl⟩ := List.forall_mem_cons.mp h
    obtain ⟨b, hb⟩ := Option.isSome_iff_exists.mp ha
    cases n with
    | zero => simp
    | succ n =>
      rw [List.filterMap_cons_some hb, List.take_succ_cons, List.take_succ_cons,
        List.filterMap_cons_some hb, ih hl]

variable {t key}

/-- **The first of the stories that are listed**, each as its row has it. -/
theorem Ordered.stories (h : t.Ordered key) (hrows : ∀ id ∈ t.linkedIds key, (t.row? id).isSome) :
    t.stories key =
      ((t.linkedIds key).take listingLimit).filterMap fun id => (t.row? id).map Row.toStory := by
  have hlisted : (t.sortedLinks key).filterMap (fun link => t.row? link.id) =
      (t.linkedIds key).filterMap t.row? := by
    rw [h.sortedLinks, linkedIds, List.filterMap_map]
    rfl
  rw [Tables.stories, hlisted, take_filterMap hrows, List.map_filterMap]

end Tables

end FeedReader
