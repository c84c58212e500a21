import FeedReader.Proofs.Paging.FlagTurn

/-!
# The flags that a page leaves

A page is merged under the flag changes that are pending: first its stories take their places, then
each change of the generation is put on top of them, in the order in which the changes were made.
Several changes may be pending for one flag, some for a single story and some for all stories, with
opposite targets, and there may be changes of streams that the loader has left.

**All that matters of them is the latest change of the generation that has moved the flag.** Where
there is one, it decides; where there is none, the page decides for the stories that it brings, by
its last copy, and all others keep what they had (`FeedReader.Loader.flags_after_merge`).

Nothing is asked of the loader for this but that its pending changes stand in the order of their
numbers, which they always do (`FeedReader.Loader.Ledger.sorted`).
-/

namespace FeedReader

open Collection

namespace Loader

variable {l : Loader} {flag : Flag} {id : StoryId}

/-- A page lays its copies over what it is merged into, and the changes that hold a flag over
both. -/
theorem flag?_mergePage (l : Loader) (page : Nat) (stories : List Story) (flag : Flag)
    (id : StoryId) :
    (l.mergePage page stories).1.collection.flag? flag id =
      (((lastCopy? id stories).map flag.get).or ((l.baseOf page).flag? flag id)).map
        (l.heldAt? flag id).getD := by
  rw [mergePage_eq]
  change (l.merged page stories).flag? flag id = _
  rw [merged, flag?_foldl_reapply, flag?_merge]
  rfl

/-- What a page is merged into is what the loader holds, as far as it is kept. -/
theorem flag?_of_baseOf {page : Nat} {value : Bool}
    (h : (l.baseOf page).flag? flag id = some value) : l.collection.flag? flag id = some value := by
  rw [baseOf] at h
  split at h
  · cases h
  · exact h

/-- **The latest change that holds a flag decides at which value it is held.** -/
theorem heldAt?_of_latest (hsorted : l.pendingChanges.Pairwise fun p q => p.number < q.number)
    {pending : PendingChange} (hmem : pending ∈ l.holders flag id)
    (hlatest : ∀ p ∈ l.holders flag id, p.number ≤ pending.number) :
    l.heldAt? flag id = some pending.change.target := by
  have hholders : (l.holders flag id).Pairwise fun p q => p.number < q.number :=
    hsorted.sublist (List.filter_sublist.trans List.filter_sublist)
  obtain ⟨earlier, last, hlast⟩ :=
    (List.eq_nil_or_concat' (l.holders flag id)).resolve_left (List.ne_nil_of_mem hmem)
  rw [hlast] at hmem hlatest hholders
  obtain ⟨-, -, hbefore⟩ := List.pairwise_append.mp hholders
  have hle : last.number ≤ pending.number :=
    hlatest last (List.mem_append_right _ (List.mem_singleton.mpr rfl))
  -- Were it one of the earlier changes, the last one would have a greater number.
  rcases List.mem_append.mp hmem with hold | hnew
  · have hlt := hbefore pending hold last (List.mem_singleton.mpr rfl)
    omega
  · rw [heldAt?, hlast, List.getLast?_concat, List.mem_singleton.mp hnew]
    rfl

theorem heldAt?_of_free (hfree : l.holders flag id = []) : l.heldAt? flag id = none := by
  rw [heldAt?, hfree]
  rfl

/-- **What the flags of a collection are after a page has been merged.** The collection holds the
stories that the page brings and those that it is merged into. If a pending change of the generation
has moved a flag of a story (`FeedReader.Loader.mem_holders`), the flag is at the target of the
latest such change, whatever the page says. If none has, the flag is that of the last copy on the
page, and what it was before if the page does not bring the story. -/
theorem flags_after_merge (hsorted : l.pendingChanges.Pairwise fun p q => p.number < q.number)
    (page : Nat) (stories : List Story) (flag : Flag) (id : StoryId) :
    let after := (l.mergePage page stories).1.collection.flag? flag id
    (after.isSome = true ↔ id ∈ stories.map Story.id ∨ id ∈ (l.baseOf page).ids) ∧
      ∀ value, after = some value →
        (∀ pending ∈ l.holders flag id, (∀ p ∈ l.holders flag id, p.number ≤ pending.number) →
          value = pending.change.target) ∧
        (l.holders flag id = [] →
          (∀ copy, lastCopy? id stories = some copy → value = flag.get copy) ∧
            (id ∉ stories.map Story.id → l.collection.flag? flag id = some value)) := by
  intro after
  have hafter : after =
      (((lastCopy? id stories).map flag.get).or ((l.baseOf page).flag? flag id)).map
        (l.heldAt? flag id).getD := l.flag?_mergePage page stories flag id
  refine ⟨?_, fun value hvalue => ⟨fun pending hmem hlatest => ?_, fun hfree => ?_⟩⟩
  · have hpage : (lastCopy? id stories).isSome = true ↔ id ∈ stories.map Story.id := by
      rw [Option.isSome_iff_ne_none, ne_eq, lastCopy?_eq_none, not_not]
    rw [hafter, Option.isSome_map, Option.isSome_or, Bool.or_eq_true, Option.isSome_map, hpage,
      Collection.flag?, Option.isSome_map, isSome_find?]
  · rw [hafter, heldAt?_of_latest hsorted hmem hlatest] at hvalue
    obtain ⟨_, -, hvalue⟩ := Option.map_eq_some_iff.mp hvalue
    exact hvalue.symm
  · have hbrought : ((lastCopy? id stories).map flag.get).or ((l.baseOf page).flag? flag id) =
        some value := by
      rw [← hvalue, hafter, heldAt?_of_free hfree]
      exact Option.map_id'.symm
    refine ⟨fun copy hcopy => ?_, fun hpage => ?_⟩
    · rw [hcopy] at hbrought
      exact (Option.some.inj hbrought).symm
    · rw [lastCopy?_eq_none.mpr hpage] at hbrought
      exact flag?_of_baseOf hbrought

/-- A loader that has saved a story in an earlier stream, marked all stories read in this one and
one of them unread again, and asks for the second page. No change has been answered. -/
def changedTwice : Loader :=
  (Loader.new { source := .feed 1 } {} 2).run
    [.reset { source := .feed 1 }, .requestPage,
      .complete (.page ⟨1, { source := .feed 1 }, 1⟩
        (.ok [{ id := ⟨"1:a"⟩, feedId := 1, title := "a" }])),
      .mark .save ⟨"1:a"⟩, .reset { source := .feed 1 }, .requestPage,
      .complete (.page ⟨2, { source := .feed 1 }, 1⟩
        (.ok [{ id := ⟨"1:a"⟩, feedId := 1, title := "a" },
          { id := ⟨"1:b"⟩, feedId := 1, title := "b" }])),
      .markAllRead, .mark .markUnread ⟨"1:a"⟩, .requestPage]

/-- A page that has one of the stories, with the flag that was taken from it, and a new story
twice. -/
def pageOverChanges : List Story :=
  [{ id := ⟨"1:a"⟩, feedId := 1, title := "a", read := true },
    { id := ⟨"1:c"⟩, feedId := 1, title := "c", saved := true },
    { id := ⟨"1:c"⟩, feedId := 1, title := "c", read := true }]

/-- What `changedTwice` holds when this page has been merged. -/
def afterPageOverChanges : Collection := (changedTwice.mergePage 2 pageOverChanges).1.collection

/-- The later change decides over the page and the earlier change, the earlier one over what was
held, and the change of the earlier stream counts for nothing. -/
theorem flags_after_merge_changedTwice :
    Reachable changedTwice ∧
      changedTwice.pendingChanges.map (fun p => (p.number, p.generation, p.change)) =
        [(0, 1, .save), (1, 2, .markAllRead), (2, 2, .markUnread)] ∧
      afterPageOverChanges.flag? .read ⟨"1:a"⟩ = some false ∧
      afterPageOverChanges.flag? .read ⟨"1:b"⟩ = some true ∧
      afterPageOverChanges.flag? .read ⟨"1:c"⟩ = some true ∧
      afterPageOverChanges.flag? .saved ⟨"1:a"⟩ = some false := by
  have hreachable : Reachable changedTwice := (Reachable.new _ _ _).run _
  have hafter := flags_after_merge hreachable.ledger.sorted 2 pageOverChanges
  obtain ⟨reada, hreada⟩ := Option.isSome_iff_exists.mp
    ((hafter .read ⟨"1:a"⟩).1.mpr (by decide +kernel))
  obtain ⟨readb, hreadb⟩ := Option.isSome_iff_exists.mp
    ((hafter .read ⟨"1:b"⟩).1.mpr (by decide +kernel))
  obtain ⟨readc, hreadc⟩ := Option.isSome_iff_exists.mp
    ((hafter .read ⟨"1:c"⟩).1.mpr (by decide +kernel))
  obtain ⟨saveda, hsaveda⟩ := Option.isSome_iff_exists.mp
    ((hafter .saved ⟨"1:a"⟩).1.mpr (by decide +kernel))
  refine ⟨hreachable, by decide +kernel, hreada.trans (congrArg some ?_),
    hreadb.trans (congrArg some ?_), hreadc.trans (congrArg some ?_),
    hsaveda.trans (congrArg some ?_)⟩
  · exact ((hafter .read ⟨"1:a"⟩).2 reada hreada).1
      ⟨2, 2, .markUnread, [(⟨"1:a"⟩, true)]⟩ (by decide +kernel) (by decide +kernel)
  · exact ((hafter .read ⟨"1:b"⟩).2 readb hreadb).1
      ⟨1, 2, .markAllRead, [(⟨"1:a"⟩, false), (⟨"1:b"⟩, false)]⟩ (by decide +kernel)
      (by decide +kernel)
  · exact (((hafter .read ⟨"1:c"⟩).2 readc hreadc).2 (by decide +kernel)).1 _ rfl
  · exact (((hafter .saved ⟨"1:a"⟩).2 saveda hsaveda).2 (by decide +kernel)).1 _ rfl

end Loader

end FeedReader
