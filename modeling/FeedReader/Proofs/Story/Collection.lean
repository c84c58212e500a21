import FeedReader.Story.Collection
import FeedReader.Story.Flag
import Mathlib.Data.List.Induction
import Mathlib.Data.List.Nodup

/-!
# What a collection holds

A collection is built by placing one story after the other, so all that it holds can be
read off the stories that were placed. Two questions decide a story of it: which ids come
in which order, and which copy of a story is held.

* `FeedReader.Collection.ids_merge`: the **order** is that of the first occurrences;
* `FeedReader.Collection.find?_merge`: the **copy** is the last one.

Together they give the stories of a merge as one list (`FeedReader.Collection.stories_merge`).

The flags of a story go their own way, since the user changes them. What the server has
said of a story is therefore compared by `FeedReader.Story.unflagged`, the story with both
flags cleared, and merging does not depend on what is cleared
(`FeedReader.Collection.unflagged_merge`).
-/

namespace FeedReader

/-! ### Lists without repetition -/

/-- A list without repetition is the list of its first occurrences. -/
theorem eraseDups_eq_self {α : Type} [BEq α] [LawfulBEq α] {l : List α} (h : l.Nodup) :
    l.eraseDups = l := by
  induction l with
  | nil => rfl
  | cons a l ih =>
    obtain ⟨ha, hl⟩ := List.nodup_cons.mp h
    have hkeep : l.filter (fun b => !b == a) = l := by
      refine List.filter_eq_self.mpr fun b hb => ?_
      have hne : b ≠ a := fun hba => ha (hba ▸ hb)
      simp [hne]
    rw [List.eraseDups_cons, hkeep, ih hl]

theorem nodup_eraseDups {α : Type} [BEq α] [LawfulBEq α] (l : List α) : l.eraseDups.Nodup := by
  induction l using List.reverseRecOn with
  | nil => exact List.nodup_nil
  | append_singleton l a ih =>
    rw [List.eraseDups_append]
    by_cases hmem : a ∈ l
    · simpa [List.removeAll, hmem] using ih
    · have hnew : a ∉ l.eraseDups := fun ha => hmem (List.mem_eraseDups.mp ha)
      have hlast : ([a].removeAll l).eraseDups = [a] := by
        simp [List.removeAll, hmem, List.eraseDups_cons]
      rw [hlast]
      simpa using List.Nodup.concat hnew ih

/-- What has occurred already counts for nothing in a list of first occurrences. -/
theorem eraseDups_append_cons {α : Type} [DecidableEq α] (l : List α) (a : α) (l' : List α) :
    (l ++ a :: l').eraseDups = ((if a ∈ l then l else l ++ [a]) ++ l').eraseDups := by
  by_cases hmem : a ∈ l
  · rw [if_pos hmem, List.eraseDups_append, List.eraseDups_append]
    simp [List.removeAll, hmem]
  · rw [if_neg hmem, List.append_assoc, List.singleton_append]

theorem eraseDups_append_of_subset {α : Type} [DecidableEq α] {l l' : List α} (h : l.Nodup)
    (hsubset : ∀ a ∈ l', a ∈ l) : (l ++ l').eraseDups = l := by
  have hnone : l'.removeAll l = [] := by
    refine List.filter_eq_nil_iff.mpr fun a ha => ?_
    simpa using hsubset a ha
  rw [List.eraseDups_append, hnone, eraseDups_eq_self h]
  exact List.append_nil l

/-! ### The last copy of a story -/

/-- The last copy of a story among the stories of a batch. -/
def lastCopy? (id : StoryId) (batch : List Story) : Option Story :=
  (batch.filter fun s => s.id = id).getLast?

@[simp] theorem lastCopy?_nil (id : StoryId) : lastCopy? id [] = none := rfl

theorem lastCopy?_append (id : StoryId) (batch batch' : List Story) :
    lastCopy? id (batch ++ batch') = (lastCopy? id batch').or (lastCopy? id batch) := by
  rw [lastCopy?, List.filter_append, List.getLast?_append]
  rfl

theorem lastCopy?_cons (id : StoryId) (story : Story) (batch : List Story) :
    lastCopy? id (story :: batch) =
      (lastCopy? id batch).or (if story.id = id then some story else none) := by
  rw [← List.singleton_append, lastCopy?_append]
  by_cases hid : story.id = id <;> simp [lastCopy?, hid]

theorem id_of_lastCopy? {id : StoryId} {batch : List Story} {copy : Story}
    (h : lastCopy? id batch = some copy) : copy.id = id := by
  have hmem := List.mem_filter.mp (List.mem_of_getLast? h)
  simpa using hmem.2

theorem lastCopy?_eq_none {id : StoryId} {batch : List Story} :
    lastCopy? id batch = none ↔ id ∉ batch.map Story.id := by
  simp [lastCopy?]

/-! ### Placing by id -/

section PlaceBy

variable {α : Type}

/-- Puts something in the place of what has its id, or at the end if nothing has. Stories are placed
so among those of a collection, and rows among those of the cache. -/
def placeBy (idOf : α → StoryId) (a : α) : List α → List α
  | [] => [a]
  | held :: rest => if idOf held = idOf a then a :: rest else held :: placeBy idOf a rest

/-- Placing brings its id behind the others, unless it is there. -/
theorem map_placeBy (idOf : α → StoryId) (a : α) (held : List α) :
    (placeBy idOf a held).map idOf =
      if idOf a ∈ held.map idOf then held.map idOf else held.map idOf ++ [idOf a] := by
  induction held with
  | nil => simp [placeBy]
  | cons first rest ih =>
    by_cases hid : idOf first = idOf a
    · simp [placeBy, hid]
    · have hid' : ¬idOf a = idOf first := fun h => hid h.symm
      simp only [placeBy, if_neg hid, List.map_cons, ih, List.mem_cons, hid', false_or]
      split <;> rfl

/-- What is placed is found under its id, and everything else as before. -/
theorem find?_placeBy (idOf : α → StoryId) (a : α) (held : List α) (id : StoryId) :
    (placeBy idOf a held).find? (fun b => idOf b = id) =
      if idOf a = id then some a else held.find? (fun b => idOf b = id) := by
  induction held with
  | nil => by_cases hid : idOf a = id <;> simp [placeBy, hid]
  | cons first rest ih =>
    by_cases hfirst : idOf first = idOf a
    · by_cases hid : idOf a = id <;> simp [placeBy, hfirst, hid]
    · rw [placeBy, if_neg hfirst, List.find?_cons, List.find?_cons, ih]
      by_cases hid : idOf a = id
      · have hne : ¬idOf first = id := fun h => hfirst (h.trans hid.symm)
        simp [hne, hid]
      · simp [hid]

end PlaceBy

namespace Collection

/-! ### Placing a story -/

theorem place_eq_placeBy (story : Story) (held : List Story) :
    place story held = placeBy Story.id story held := by
  induction held with
  | nil => rfl
  | cons first rest ih => rw [place, placeBy, ih]

theorem map_id_place (story : Story) (held : List Story) :
    (place story held).map Story.id =
      if story.id ∈ held.map Story.id then held.map Story.id
      else held.map Story.id ++ [story.id] := by
  rw [place_eq_placeBy, map_placeBy]

theorem find?_place (story : Story) (held : List Story) (id : StoryId) :
    (place story held).find? (fun s => s.id = id) =
      if story.id = id then some story else held.find? (fun s => s.id = id) := by
  rw [place_eq_placeBy, find?_placeBy]

theorem ids_insert (c : Collection) (story : Story) :
    (c.insert story).ids = if story.id ∈ c.ids then c.ids else c.ids ++ [story.id] :=
  map_id_place story c.stories

theorem find?_insert (c : Collection) (story : Story) (id : StoryId) :
    (c.insert story).find? id = if story.id = id then some story else c.find? id :=
  find?_place story c.stories id

/-! ### Merging a batch -/

@[simp] theorem merge_nil (c : Collection) : c.merge [] = c := rfl

@[simp] theorem merge_cons (c : Collection) (story : Story) (batch : List Story) :
    c.merge (story :: batch) = (c.insert story).merge batch := rfl

@[simp] theorem append_nil (c : Collection) : c.append [] = (c, []) := by
  simp [append, size]

theorem merge_append (c : Collection) (batch batch' : List Story) :
    c.merge (batch ++ batch') = (c.merge batch).merge batch' := by
  simp [merge]

theorem nodup_ids_insert {c : Collection} (h : c.ids.Nodup) (story : Story) :
    (c.insert story).ids.Nodup := by
  rw [ids_insert]
  split
  · exact h
  · next hnew =>
    refine List.nodup_append.mpr ⟨h, by simp, ?_⟩
    intro a ha b hb hab
    rw [List.mem_singleton] at hb
    exact hnew (hb ▸ hab ▸ ha)

/-- **The order of a merge is that of the first occurrences**, those before the batch
counted. -/
theorem ids_merge {c : Collection} (h : c.ids.Nodup) (batch : List Story) :
    (c.merge batch).ids = (c.ids ++ batch.map Story.id).eraseDups := by
  induction batch generalizing c with
  | nil => simp [eraseDups_eq_self h]
  | cons story batch ih =>
    rw [merge_cons, ih (nodup_ids_insert h story), ids_insert, List.map_cons,
      eraseDups_append_cons]

theorem nodup_ids_merge {c : Collection} (h : c.ids.Nodup) (batch : List Story) :
    (c.merge batch).ids.Nodup := by
  induction batch generalizing c with
  | nil => exact h
  | cons story batch ih => exact ih (nodup_ids_insert h story)

/-- A merge keeps the order of what is held and adds behind it. -/
theorem ids_prefix_merge (c : Collection) (batch : List Story) :
    c.ids <+: (c.merge batch).ids := by
  induction batch generalizing c with
  | nil => exact List.prefix_rfl
  | cons story batch ih =>
    refine List.IsPrefix.trans ?_ (ih (c.insert story))
    rw [ids_insert]
    split
    · exact List.prefix_rfl
    · exact List.prefix_append _ _

/-- What a merge adds behind the ids that are held are the ids of the stories that it reports as
new. -/
theorem ids_merge_eq_append (c : Collection) (batch : List Story) :
    (c.merge batch).ids = c.ids ++ (c.append batch).2.map Story.id := by
  obtain ⟨rest, hrest⟩ := c.ids_prefix_merge batch
  have hsize : c.size = c.ids.length := by simp [size, ids]
  have hadded : (c.append batch).2.map Story.id = (c.merge batch).ids.drop c.size := List.map_drop
  rw [hadded, ← hrest, hsize, List.drop_left]

/-- Two batches one after the other bring the same ids anew as both in one. -/
theorem map_id_snd_append_append (c : Collection) (batch batch' : List Story) :
    (c.append (batch ++ batch')).2.map Story.id =
      (c.append batch).2.map Story.id ++ ((c.merge batch).append batch').2.map Story.id := by
  have hids := c.ids_merge_eq_append (batch ++ batch')
  rw [merge_append, ids_merge_eq_append, ids_merge_eq_append, List.append_assoc] at hids
  exact (List.append_cancel_left hids).symm

/-- **Of a story that a batch brings, the last copy is held**; of the others, what was held
before. -/
theorem find?_merge (c : Collection) (batch : List Story) (id : StoryId) :
    (c.merge batch).find? id = (lastCopy? id batch).or (c.find? id) := by
  induction batch generalizing c with
  | nil => simp
  | cons story batch ih =>
    rw [merge_cons, ih, find?_insert, lastCopy?_cons, Option.or_assoc]
    by_cases hid : story.id = id <;> simp [hid]

/-! ### Changing a story -/

section Modify

variable {f : Story → Story}

theorem find?_modify (hf : ∀ s, (f s).id = s.id) (c : Collection) (id id' : StoryId) :
    (c.modify id f).find? id' = (c.find? id').map fun s => if s.id = id then f s else s := by
  simp only [modify, find?, List.find?_map]
  congr 2
  funext s
  simp only [Function.comp_apply]
  split
  · rw [hf s]
  · rfl

theorem ids_modify (hf : ∀ s, (f s).id = s.id) (c : Collection) (id : StoryId) :
    (c.modify id f).ids = c.ids := by
  simp only [modify, ids, List.map_map]
  refine List.map_congr_left fun s _ => ?_
  simp only [Function.comp_apply]
  split
  · exact hf s
  · rfl

theorem modify_of_find?_eq_none {c : Collection} {id : StoryId} (h : c.find? id = none)
    (f : Story → Story) : c.modify id f = c := by
  obtain ⟨stories⟩ := c
  simp only [find?, List.find?_eq_none, decide_eq_true_eq] at h
  simp only [modify, Collection.mk.injEq]
  exact (List.map_congr_left fun s hs => if_neg (h s hs)).trans (List.map_id' stories)

end Modify

theorem id_of_find? {c : Collection} {id : StoryId} {story : Story} (h : c.find? id = some story) :
    story.id = id := by
  simpa using List.find?_some h

theorem mem_ids_of_find? {c : Collection} {id : StoryId} {story : Story}
    (h : c.find? id = some story) : id ∈ c.ids :=
  List.mem_map.mpr ⟨story, List.mem_of_find?_eq_some h, id_of_find? h⟩

theorem isSome_find? {c : Collection} {id : StoryId} :
    (c.find? id).isSome = true ↔ id ∈ c.ids := by
  rw [find?, List.find?_isSome, ids, List.mem_map]
  simp only [decide_eq_true_eq]

/-- A story of a collection is the one that is found under its id. -/
theorem find?_eq_some_of_mem {c : Collection} (h : c.ids.Nodup) {story : Story}
    (hmem : story ∈ c.stories) : c.find? story.id = some story := by
  obtain ⟨stories⟩ := c
  induction stories with
  | nil => simp at hmem
  | cons first rest ih =>
    simp only [ids, List.map_cons, List.nodup_cons] at h
    rcases List.mem_cons.mp hmem with rfl | hrest
    · simp [find?]
    · have hne : ¬first.id = story.id := fun heq =>
        h.1 (heq ▸ List.mem_map_of_mem hrest)
      simpa [find?, hne] using ih h.2 hrest

/-! ### The stories of a merge -/

/-- The ids of a batch that are not held yet, in order of their first occurrence. -/
def newIds (c : Collection) (batch : List Story) : List StoryId :=
  ((batch.map Story.id).filter fun id => id ∉ c.ids).eraseDups

theorem mem_newIds {c : Collection} {batch : List Story} {id : StoryId} :
    id ∈ c.newIds batch ↔ id ∈ batch.map Story.id ∧ id ∉ c.ids := by
  rw [newIds, List.mem_eraseDups, List.mem_filter, decide_eq_true_eq]

/-- Stories of a collection are found again by their ids. -/
theorem filterMap_find?_map_id {c : Collection} (h : c.ids.Nodup) {held : List Story}
    (hheld : held ⊆ c.stories) : (held.map Story.id).filterMap c.find? = held := by
  rw [List.filterMap_map]
  have hfind : ∀ story ∈ held, (c.find? ∘ Story.id) story = some story :=
    fun story hstory => find?_eq_some_of_mem h (hheld hstory)
  rw [List.filterMap_congr hfind, List.filterMap_some]

/-- What a batch adds are the ids that it brings anew. -/
theorem map_id_snd_append {c : Collection} (h : c.ids.Nodup) (batch : List Story) :
    (c.append batch).2.map Story.id = c.newIds batch := by
  have hnew : (batch.map Story.id).removeAll c.ids =
      (batch.map Story.id).filter fun id => id ∉ c.ids := by
    simp [List.removeAll]
  have hids := c.ids_merge_eq_append batch
  rw [ids_merge h, List.eraseDups_append, eraseDups_eq_self h, hnew] at hids
  exact (List.append_cancel_left hids).symm

/-- **A story that a batch adds is the last copy that the batch has of it.** -/
theorem snd_append {c : Collection} (h : c.ids.Nodup) (batch : List Story) :
    (c.append batch).2 = (c.newIds batch).filterMap fun id => lastCopy? id batch := by
  have hadded : (c.append batch).2 ⊆ (c.merge batch).stories := List.drop_subset _ _
  rw [← filterMap_find?_map_id (nodup_ids_merge h batch) hadded, map_id_snd_append h]
  refine List.filterMap_congr fun id hid => ?_
  have hnone : c.find? id = none := by
    rw [← Option.not_isSome_iff_eq_none, isSome_find?]
    exact (mem_newIds.mp hid).2
  rw [find?_merge, hnone, Option.or_none]

/-- **The stories after a merge**: those that were held stay in their places, each as the last copy
that the batch has of it, and the new ones stand behind them. -/
theorem stories_merge {c : Collection} (h : c.ids.Nodup) (batch : List Story) :
    (c.merge batch).stories =
      c.stories.map (fun story => (lastCopy? story.id batch).getD story) ++
        (c.append batch).2 := by
  have hnodup := nodup_ids_merge h batch
  have hadded : (c.append batch).2 ⊆ (c.merge batch).stories := List.drop_subset _ _
  have hheld : c.ids.filterMap (c.merge batch).find? =
      c.stories.map fun story => (lastCopy? story.id batch).getD story := by
    rw [ids, List.filterMap_map, ← List.filterMap_eq_map]
    refine List.filterMap_congr fun story hstory => ?_
    simp only [Function.comp_apply, find?_merge, find?_eq_some_of_mem h hstory]
    cases lastCopy? story.id batch <;> rfl
  calc (c.merge batch).stories
      = (c.merge batch).ids.filterMap (c.merge batch).find? :=
        (filterMap_find?_map_id hnodup (List.Subset.refl _)).symm
    _ = c.ids.filterMap (c.merge batch).find? ++
          ((c.append batch).2.map Story.id).filterMap (c.merge batch).find? := by
        rw [ids_merge_eq_append, List.filterMap_append]
    _ = _ := by rw [hheld, filterMap_find?_map_id hnodup hadded]

/-- Starting over with a batch leaves the last copy of each of its stories, in the order in which
they occur first. -/
theorem stories_replaceAll (c : Collection) (batch : List Story) :
    (c.replaceAll batch).1.stories =
      (batch.map Story.id).eraseDups.filterMap fun id => lastCopy? id batch := by
  have hempty : ({} : Collection).ids.Nodup := List.nodup_nil
  have hnew : newIds {} batch = (batch.map Story.id).eraseDups := by simp [newIds, ids]
  have hstories := stories_merge hempty batch
  rw [snd_append hempty, hnew] at hstories
  exact hstories

end Collection

/-! ### Everything but the flags -/

/-- A story with both flags cleared: what the server says of it and the user cannot change. -/
def Story.unflagged (story : Story) : Story := { story with read := false, saved := false }

@[simp] theorem Story.id_unflagged (story : Story) : story.unflagged.id = story.id := rfl

@[simp] theorem FlagChange.id_set (change : FlagChange) (value : Bool) (story : Story) :
    (change.set value story).id = story.id :=
  Flag.id_set change.flag value story

@[simp] theorem FlagChange.unflagged_set (change : FlagChange) (value : Bool) (story : Story) :
    (change.set value story).unflagged = story.unflagged := by
  cases change <;> rfl

namespace Collection

/-- The collection with all flags cleared. -/
def unflagged (c : Collection) : Collection := ⟨c.stories.map Story.unflagged⟩

@[simp] theorem ids_unflagged (c : Collection) : c.unflagged.ids = c.ids := by
  simp only [ids, unflagged, List.map_map]
  rfl

/-- Stories that differ in their flags only have the same ids, in the same order. -/
theorem ids_eq_of_unflagged {c c' : Collection} (h : c.unflagged = c'.unflagged) :
    c.ids = c'.ids := by
  rw [← ids_unflagged, h, ids_unflagged]

theorem find?_unflagged (c : Collection) (id : StoryId) :
    c.unflagged.find? id = (c.find? id).map Story.unflagged := by
  simp only [unflagged, find?, List.find?_map]
  rfl

theorem unflagged_modify {f : Story → Story} (hf : ∀ s, (f s).unflagged = s.unflagged)
    (c : Collection) (id : StoryId) : (c.modify id f).unflagged = c.unflagged := by
  simp only [modify, unflagged, List.map_map]
  congr 1
  refine List.map_congr_left fun s _ => ?_
  simp only [Function.comp_apply]
  split
  · exact hf s
  · rfl

theorem map_unflagged_place (story : Story) (held : List Story) :
    (place story held).map Story.unflagged =
      place story.unflagged (held.map Story.unflagged) := by
  induction held with
  | nil => rfl
  | cons first rest ih =>
    by_cases hid : first.id = story.id
    · simp [place, hid]
    · simp [place, hid, ih]

/-- **Merging does not look at the flags.** -/
theorem unflagged_merge (c : Collection) (batch : List Story) :
    (c.merge batch).unflagged = c.unflagged.merge (batch.map Story.unflagged) := by
  induction batch generalizing c with
  | nil => rfl
  | cons story batch ih =>
    rw [merge_cons, List.map_cons, merge_cons, ih]
    congr 1
    simp only [unflagged, insert, map_unflagged_place]

end Collection

end FeedReader
