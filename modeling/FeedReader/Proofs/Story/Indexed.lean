import FeedReader.Proofs.Story.Collection
import FeedReader.Story.Indexed

/-!
# The index of a collection follows its stories

An indexed collection writes its stories and its index apart. The invariant
`FeedReader.IndexedCollection.Sound` is what ties them: **no story is held twice, and the index
gives an id the place `i` exactly if the story in place `i` has that id**. So a place that the
index gives is always inside the list, and looking an id up is the same as searching for it.

Every operation keeps the invariant and does to the stories what the operation of the same name
does to a `FeedReader.Collection`. What is known of collections, such as the closed form
`FeedReader.Collection.stories_merge`, therefore holds of indexed ones after any edits
(`FeedReader.IndexedCollection.Sound.edited`).
-/

namespace FeedReader

theorem getElem?_concat_eq_some_iff {α : Type} {l : List α} {a b : α} {i : Nat} :
    (l ++ [a])[i]? = some b ↔ l[i]? = some b ∨ i = l.length ∧ a = b := by
  rw [List.getElem?_append]
  split
  · next hlt => simp [Nat.ne_of_lt hlt]
  · next hge =>
    have hnone : l[i]? = none := List.getElem?_eq_none (Nat.le_of_not_lt hge)
    have hi : (i - l.length = 0) = (i = l.length) := by
      simp only [eq_iff_iff]
      omega
    simp [hnone, List.getElem?_singleton, hi]

/-! ### Edits -/

/-- What may be done to a collection from outside. -/
inductive Edit
  | append (batch : List Story)
  | replaceAll (batch : List Story)
  | clear
  | setFlag (flag : Flag) (value : Bool) (id : StoryId)
deriving DecidableEq, Repr

namespace Collection

/-- The collection after an edit. -/
def edit (c : Collection) : Edit → Collection
  | .append batch => (c.append batch).1
  | .replaceAll batch => (c.replaceAll batch).1
  | .clear => {}
  | .setFlag flag value id => c.modify id (flag.set value)

/-- The collection after a list of edits. -/
def edited (c : Collection) (edits : List Edit) : Collection := edits.foldl edit c

/-! ### Where a story is placed -/

/-- A story that is not held goes to the end. -/
theorem place_of_not_mem {story : Story} {held : List Story}
    (h : story.id ∉ held.map Story.id) : place story held = held ++ [story] := by
  induction held with
  | nil => rfl
  | cons first rest ih =>
    rw [List.map_cons, List.mem_cons, not_or] at h
    rw [place, if_neg (Ne.symm h.1), ih h.2, List.cons_append]

/-- A story that is held goes where its id stands. -/
theorem place_of_getElem? {story : Story} {held : List Story} (hnodup : (held.map Story.id).Nodup)
    {i : Nat} (h : (held.map Story.id)[i]? = some story.id) :
    place story held = held.set i story := by
  induction held generalizing i with
  | nil => cases h
  | cons first rest ih =>
    obtain ⟨hfirst, hrest⟩ := List.nodup_cons.mp hnodup
    cases i with
    | zero =>
      have hid : first.id = story.id := by simpa using h
      rw [place, if_pos hid, List.set_cons_zero]
    | succ i =>
      have hi : (rest.map Story.id)[i]? = some story.id := h
      -- The id stands further behind, so it is not that of the first story.
      have hne : first.id ≠ story.id := fun heq => hfirst (heq ▸ List.mem_of_getElem? hi)
      rw [place, if_neg hne, ih hrest hi, List.set_cons_succ]

theorem position?_eq_some_iff {c : Collection} (h : c.ids.Nodup) {id : StoryId} {i : Nat} :
    c.position? id = some i ↔ c.ids[i]? = some id := by
  rw [position?, List.findIdx?_eq_some_iff_getElem, ids, List.getElem?_map, Option.map_eq_some_iff]
  constructor
  · rintro ⟨hlt, hid, -⟩
    exact ⟨c.stories[i], List.getElem?_eq_getElem hlt, of_decide_eq_true hid⟩
  · rintro ⟨story, hstory, rfl⟩
    obtain ⟨hlt, rfl⟩ := List.getElem?_eq_some_iff.mp hstory
    refine ⟨hlt, decide_eq_true rfl, fun j hj heq => ?_⟩
    -- An earlier story of this id would be held twice.
    have hdistinct := List.pairwise_iff_getElem.mp (List.pairwise_map.mp h) j i
      (Nat.lt_trans hj hlt) hlt hj
    exact hdistinct (of_decide_eq_true heq)

/-- Changing the story of an id is changing what stands in its place. -/
theorem stories_modify {c : Collection} (h : c.ids.Nodup) {id : StoryId} {i : Nat}
    (hi : c.ids[i]? = some id) (f : Story → Story) :
    (c.modify id f).stories = c.stories.modify i f := by
  have hplace : ∀ j, c.ids[j]? = some id → i = j := fun j hj =>
    (List.getElem?_inj (List.getElem?_eq_some_iff.mp hi).1 h).mp (hi.trans hj.symm)
  ext1 j
  rw [modify, List.getElem?_map, List.getElem?_modify]
  refine Option.map_congr fun story hstory => ?_
  have hid : c.ids[j]? = some story.id := by rw [ids, List.getElem?_map, hstory, Option.map_some]
  by_cases hsame : story.id = id
  · rw [if_pos hsame, if_pos (hplace j (hsame ▸ hid))]
  · -- Another id stands in another place.
    have hne : i ≠ j := fun heq => hsame (Option.some.inj ((heq ▸ hid).symm.trans hi))
    rw [if_neg hsame, if_neg hne]

end Collection

namespace IndexedCollection

/-- The collection after an edit. -/
def edit (c : IndexedCollection) : Edit → IndexedCollection
  | .append batch => (c.append batch).1
  | .replaceAll batch => (c.replaceAll batch).1
  | .clear => {}
  | .setFlag flag value id => c.modify id (flag.set value)

/-- The collection after a list of edits. -/
def edited (c : IndexedCollection) (edits : List Edit) : IndexedCollection := edits.foldl edit c

/-! ### What the index says -/

/-- **The index agrees with the stories**, which are held once each. -/
structure Sound (c : IndexedCollection) : Prop where
  nodup : c.ids.Nodup
  position : ∀ id i, c.position? id = some i ↔ c.ids[i]? = some id

namespace Sound

variable {c : IndexedCollection}

theorem empty : Sound {} := by
  constructor
  · exact List.nodup_nil
  · intro id i
    simp [position?, ids]

theorem position?_eq_none (h : c.Sound) {id : StoryId} : c.position? id = none ↔ id ∉ c.ids := by
  constructor
  · intro hnone hmem
    obtain ⟨i, hi⟩ := List.mem_iff_getElem?.mp hmem
    rw [(h.position id i).mpr hi] at hnone
    cases hnone
  · intro hnot
    cases hplace : c.position? id with
    | none => rfl
    | some i => exact absurd (List.mem_of_getElem? ((h.position id i).mp hplace)) hnot

/-- The place that the index gives is the one where a search finds the story. -/
theorem position?_eq (h : c.Sound) (id : StoryId) : c.position? id = c.plain.position? id := by
  ext i
  exact (h.position id i).trans (Collection.position?_eq_some_iff (c := c.plain) h.nodup).symm

/-- What stands in the place that the index gives is what a search finds. -/
theorem find?_eq (h : c.Sound) (id : StoryId) : c.find? id = c.plain.find? id := by
  cases hplace : c.position? id with
  | none =>
    have hnone : c.plain.find? id = none := by
      rw [← Option.not_isSome_iff_eq_none, Collection.isSome_find?]
      exact h.position?_eq_none.mp hplace
    rw [find?, hplace, hnone, Option.bind_none]
  | some i =>
    have hi := (h.position id i).mp hplace
    rw [ids, List.getElem?_map] at hi
    obtain ⟨story, hstory, rfl⟩ := Option.map_eq_some_iff.mp hi
    rw [find?, hplace, Option.bind_some, hstory]
    exact (Collection.find?_eq_some_of_mem (c := c.plain) h.nodup
      (List.mem_of_getElem? hstory)).symm

theorem contains_iff (h : c.Sound) (id : StoryId) : c.contains id = true ↔ id ∈ c.ids := by
  rw [contains, ← Option.ne_none_iff_isSome, ne_eq, h.position?_eq_none, not_not]

theorem contains_eq (h : c.Sound) (id : StoryId) : c.contains id = c.plain.contains id := by
  rw [Bool.eq_iff_iff, h.contains_iff]
  simp [ids, plain, Collection.contains]

/-! ### Placing and changing a story -/

theorem plain_insert (h : c.Sound) (story : Story) :
    (c.insert story).plain = c.plain.insert story := by
  cases hplace : c.position? story.id with
  | none =>
    have hnew := Collection.place_of_not_mem (h.position?_eq_none.mp hplace)
    simp [insert, hplace, plain, Collection.insert, hnew]
  | some i =>
    have hheld := Collection.place_of_getElem? h.nodup ((h.position _ i).mp hplace)
    simp [insert, hplace, plain, Collection.insert, hheld]

theorem insert (h : c.Sound) (story : Story) : (c.insert story).Sound := by
  cases hplace : c.position? story.id with
  | some i =>
    -- The story takes the place of one with the same id, so no id moves.
    have hid := (h.position _ i).mp hplace
    have hids : (c.insert story).ids = c.ids := by
      obtain ⟨hlt, heq⟩ := List.getElem?_eq_some_iff.mp hid
      simp only [IndexedCollection.insert, hplace, ids, List.map_set]
      rw [← heq]
      exact List.set_getElem_self hlt
    have hindex : (c.insert story).index = c.index := by simp [IndexedCollection.insert, hplace]
    constructor
    · rw [hids]
      exact h.nodup
    · intro id j
      rw [hids, position?, hindex]
      exact h.position id j
  | none =>
    -- The new id is entered with the place behind all others.
    have hnew := h.position?_eq_none.mp hplace
    have hids : (c.insert story).ids = c.ids ++ [story.id] := by
      simp [IndexedCollection.insert, hplace, ids]
    have hindex : (c.insert story).index = (story.id, c.ids.length) :: c.index := by
      simp [IndexedCollection.insert, hplace, size, ids]
    constructor
    · rw [hids]
      simpa using h.nodup.concat hnew
    · intro id j
      rw [hids, getElem?_concat_eq_some_iff, position?, hindex]
      by_cases hid : id = story.id
      · subst hid
        have hnot : c.ids[j]? ≠ some story.id := fun hj => hnew (List.mem_of_getElem? hj)
        simp [hnot, eq_comm]
      · have hold := h.position id j
        have hother : (id == story.id) = false := beq_false_of_ne hid
        rw [position?] at hold
        simp [List.lookup_cons, hother, hold, Ne.symm hid]

/-- A flag that is set through the index is set in the right place. -/
theorem plain_modify (h : c.Sound) (id : StoryId) (f : Story → Story) :
    (c.modify id f).plain = c.plain.modify id f := by
  cases hplace : c.position? id with
  | some i =>
    have hstories := Collection.stories_modify (c := c.plain) h.nodup
      ((h.position id i).mp hplace) f
    simp only [modify, hplace, plain] at hstories ⊢
    rw [← hstories]
  | none =>
    have hnone : c.plain.find? id = none := by rw [← h.find?_eq, find?, hplace, Option.bind_none]
    rw [Collection.modify_of_find?_eq_none hnone f, modify, hplace]

theorem modify (h : c.Sound) (id : StoryId) {f : Story → Story} (hf : ∀ s, (f s).id = s.id) :
    (c.modify id f).Sound := by
  have hids : (c.modify id f).ids = c.ids := by
    have hplain := congrArg Collection.ids (h.plain_modify id f)
    rwa [Collection.ids_modify hf] at hplain
  have hindex : (c.modify id f).index = c.index := by
    unfold IndexedCollection.modify
    split <;> rfl
  constructor
  · rw [hids]
    exact h.nodup
  · intro id' i
    rw [hids, position?, hindex]
    exact h.position id' i

end Sound

/-! ### Taking a batch in -/

theorem fst_foldl_take (c : IndexedCollection) (new : List StoryId) (batch : List Story) :
    (batch.foldl take (c, new)).1 = batch.foldl insert c := by
  induction batch generalizing c new with
  | nil => rfl
  | cons story batch ih =>
    rw [List.foldl_cons, List.foldl_cons]
    exact ih _ _

theorem fst_append (c : IndexedCollection) (batch : List Story) :
    (c.append batch).1 = batch.foldl insert c :=
  c.fst_foldl_take [] batch

/-- **Two batches one after the other are one batch.** -/
theorem fst_append_append (c : IndexedCollection) (batch batch' : List Story) :
    (c.append (batch ++ batch')).1 = ((c.append batch).1.append batch').1 := by
  rw [fst_append, fst_append, fst_append, List.foldl_append]

namespace Sound

variable {c : IndexedCollection}

theorem foldl_insert (h : c.Sound) (batch : List Story) :
    (batch.foldl IndexedCollection.insert c).Sound ∧
      (batch.foldl IndexedCollection.insert c).plain = c.plain.merge batch := by
  induction batch generalizing c with
  | nil => exact ⟨h, rfl⟩
  | cons story batch ih =>
    rw [List.foldl_cons, Collection.merge_cons, ← h.plain_insert]
    exact ih (h.insert story)

/-- The ids that are noted as new are those that have come behind the others. -/
theorem ids_foldl_take (h : c.Sound) (batch : List Story) {old new : List StoryId}
    (hids : c.ids = old ++ new) :
    (batch.foldl take (c, new)).1.ids = old ++ (batch.foldl take (c, new)).2 := by
  induction batch generalizing c new with
  | nil => exact hids
  | cons story batch ih =>
    rw [List.foldl_cons, take]
    refine ih (h.insert story) ?_
    have hinsert := congrArg Collection.ids (h.plain_insert story)
    rw [Collection.ids_insert] at hinsert
    change (c.insert story).ids = if story.id ∈ c.ids then c.ids else c.ids ++ [story.id]
      at hinsert
    rw [hinsert]
    split
    · next hheld => rw [if_pos ((h.contains_iff story.id).mpr hheld), hids]
    · next hnew => rw [if_neg (mt (h.contains_iff story.id).mp hnew), hids, List.append_assoc]

/-- **Appending is what it is for a plain collection**: it leaves the same stories and returns the
same ones. -/
theorem append (h : c.Sound) (batch : List Story) :
    (c.append batch).1.Sound ∧ (c.append batch).1.plain = c.plain.merge batch ∧
      (c.append batch).2 = (c.plain.append batch).2 := by
  obtain ⟨hsound, hplain⟩ := h.foldl_insert batch
  rw [← fst_append] at hsound hplain
  have hnodup : (c.plain.merge batch).ids.Nodup := hplain ▸ hsound.nodup
  refine ⟨hsound, hplain, ?_⟩
  -- The ids that were noted are the ids of the stories that are new.
  have hnoted : (batch.foldl take (c, [])).2 = (c.plain.append batch).2.map Story.id := by
    have htaken := h.ids_foldl_take batch (List.append_nil c.ids).symm
    have hmerged := congrArg Collection.ids hplain
    rw [Collection.ids_merge_eq_append] at hmerged
    exact List.append_cancel_left (htaken.symm.trans hmerged)
  have hadded : (c.plain.append batch).2 ⊆ (c.plain.merge batch).stories := List.drop_subset _ _
  have hfind : (c.append batch).1.find? = (c.plain.merge batch).find? := by
    funext id
    rw [hsound.find?_eq, hplain]
  change (batch.foldl take (c, [])).2.filterMap (c.append batch).1.find? = _
  rw [hnoted, hfind]
  exact Collection.filterMap_find?_map_id hnodup hadded

/-! ### Edits -/

theorem edit (h : c.Sound) (e : Edit) :
    (c.edit e).Sound ∧ (c.edit e).plain = c.plain.edit e := by
  cases e with
  | append batch => exact ⟨(h.append batch).1, (h.append batch).2.1⟩
  | replaceAll batch => exact ⟨(empty.append batch).1, (empty.append batch).2.1⟩
  | clear => exact ⟨empty, rfl⟩
  | setFlag flag value id => exact ⟨h.modify id (flag.id_set value), h.plain_modify id _⟩

theorem edited (h : c.Sound) (edits : List Edit) :
    (c.edited edits).Sound ∧ (c.edited edits).plain = c.plain.edited edits := by
  induction edits generalizing c with
  | nil => exact ⟨h, rfl⟩
  | cons e edits ih =>
    obtain ⟨hsound, hplain⟩ := h.edit e
    obtain ⟨hsound', hplain'⟩ := ih hsound
    exact ⟨hsound', hplain'.trans (by rw [hplain]; rfl)⟩

end Sound

/-- **The index follows the stories, and merging goes by the last copies.** Whatever edits have led
to a collection, no id is held twice, and the index gives an id a place exactly if the story that
stands there has that id, so that looking a story up, asking whether it is held and setting its
flags are the same as searching the list. A batch leaves the stories that are held in their places,
each as the last copy that the batch has of it, and puts those behind them that it brings anew, in
order of their first occurrence and each as its last copy; these are what is returned. Two batches
one after the other leave the same collection as both in one, and bring the same ids anew. -/
theorem index_of_edited (edits : List Edit) :
    let c := ({} : IndexedCollection).edited edits
    c.plain = ({} : Collection).edited edits ∧
      c.ids.Nodup ∧
      (∀ id i, c.position? id = some i ↔ ∃ h : i < c.stories.length, c.stories[i].id = id) ∧
      (∀ id, c.find? id = c.plain.find? id ∧ c.contains id = c.plain.contains id ∧
        c.position? id = c.plain.position? id) ∧
      (∀ id f, (c.modify id f).plain = c.plain.modify id f) ∧
      (∀ batch,
        (c.append batch).1.stories =
            c.stories.map (fun story => (lastCopy? story.id batch).getD story) ++
              (c.append batch).2 ∧
          (c.append batch).2.map Story.id =
            ((batch.map Story.id).filter fun id => id ∉ c.ids).eraseDups ∧
          ∀ story ∈ (c.append batch).2, lastCopy? story.id batch = some story) ∧
      ∀ batch batch',
        (c.append (batch ++ batch')).1 = ((c.append batch).1.append batch').1 ∧
          (c.append (batch ++ batch')).2.map Story.id =
            (c.append batch).2.map Story.id ++
              ((c.append batch).1.append batch').2.map Story.id := by
  intro c
  obtain ⟨hsound, hplain⟩ := Sound.empty.edited edits
  refine ⟨hplain, hsound.nodup, ?_, ?_, hsound.plain_modify, ?_, ?_⟩
  · intro id i
    rw [hsound.position, List.getElem?_eq_some_iff]
    simp [ids, c]
  · exact fun id => ⟨hsound.find?_eq id, hsound.contains_eq id, hsound.position?_eq id⟩
  · intro batch
    obtain ⟨-, hmerged, hadded⟩ := hsound.append batch
    have hnodup : c.plain.ids.Nodup := hsound.nodup
    refine ⟨?_, ?_, ?_⟩
    · rw [hadded]
      exact (congrArg Collection.stories hmerged).trans (Collection.stories_merge hnodup batch)
    · rw [hadded]
      exact Collection.map_id_snd_append hnodup batch
    · intro story hstory
      rw [hadded, Collection.snd_append hnodup] at hstory
      obtain ⟨id, -, hlast⟩ := List.mem_filterMap.mp hstory
      rwa [id_of_lastCopy? hlast]
  · intro batch batch'
    obtain ⟨hsound', hmerged, hadded⟩ := hsound.append batch
    refine ⟨c.fst_append_append batch batch', ?_⟩
    rw [hadded, (hsound.append _).2.2, (hsound'.append batch').2.2, hmerged]
    exact c.plain.map_id_snd_append_append batch batch'

/-- Of a batch that brings a held story and a new one twice, the new one is returned once and as its
last copy. -/
example :
    let c := ({} : IndexedCollection).edited [.append [{ id := ⟨"a"⟩, feedId := 1, title := "A" }]]
    let (c', added) := c.append [{ id := ⟨"b"⟩, feedId := 1, title := "B" },
      { id := ⟨"a"⟩, feedId := 1, title := "A2" }, { id := ⟨"b"⟩, feedId := 1, title := "B2" }]
    added.map Story.title = ["B2"] ∧ c'.stories.map Story.title = ["A2", "B2"] ∧
      c'.position? ⟨"b"⟩ = some 1 := by
  decide +kernel

end IndexedCollection

end FeedReader
