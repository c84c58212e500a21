import FeedReader.Story.Context
import Mathlib

/-!
# A key names one stream

The cache files stories under the key of a context, so two streams with one key would be mixed, and
a stream with two keys would be kept in two places. Neither happens: **the key and the stream
determine each other** (`FeedReader.Context.key_eq_key_iff`). A river is written as numerals with
commas between, and numerals have no commas, so splitting the text gives the numerals back; and a
numeral is written in one way only.

The same feeds may be named in any order and several times. `FeedReader.Source.ofFeeds` lists them
**in ascending order, each once**, which is the one list with these properties, so two rivers over
the same feeds are the same stream.
-/

namespace FeedReader

namespace Source

/-! ### Rivers -/

theorem mem_insertAscending {n id : Int} {ids : List Int} :
    id ∈ insertAscending n ids ↔ id = n ∨ id ∈ ids := by
  induction ids with
  | nil => simp [insertAscending]
  | cons m ids ih =>
    rw [insertAscending]
    split
    · simp
    · split
      · next heq => simp [heq]
      · rw [List.mem_cons, ih, List.mem_cons]
        tauto

theorem pairwise_insertAscending (n : Int) {ids : List Int} (h : ids.Pairwise (· < ·)) :
    (insertAscending n ids).Pairwise (· < ·) := by
  induction ids with
  | nil => simp [insertAscending]
  | cons m ids ih =>
    obtain ⟨hfirst, hrest⟩ := List.pairwise_cons.mp h
    rw [insertAscending]
    split
    · next hlt =>
      refine List.pairwise_cons.mpr ⟨fun id hid => ?_, h⟩
      rcases List.mem_cons.mp hid with rfl | hid
      · exact hlt
      · exact hlt.trans (hfirst id hid)
    · split
      · exact h
      · next hnot hne =>
        refine List.pairwise_cons.mpr ⟨fun id hid => ?_, ih hrest⟩
        rcases mem_insertAscending.mp hid with rfl | hid
        · omega
        · exact hfirst id hid

theorem mem_feeds_ofFeeds {ids : List Int} {id : Int} : id ∈ (ofFeeds ids).feeds ↔ id ∈ ids := by
  rw [ofFeeds, feeds]
  induction ids with
  | nil => simp
  | cons n ids ih => rw [List.foldr_cons, mem_insertAscending, ih, List.mem_cons]

theorem pairwise_feeds_ofFeeds (ids : List Int) : (ofFeeds ids).feeds.Pairwise (· < ·) := by
  rw [ofFeeds, feeds]
  induction ids with
  | nil => exact .nil
  | cons n ids ih => exact pairwise_insertAscending n ih

/-- **Rivers over the same feeds are the same river.** -/
theorem ofFeeds_eq_ofFeeds_iff {xs ys : List Int} :
    ofFeeds xs = ofFeeds ys ↔ ∀ id, id ∈ xs ↔ id ∈ ys := by
  refine ⟨fun h id => ?_, fun h => ?_⟩
  · rw [← mem_feeds_ofFeeds, h, mem_feeds_ofFeeds]
  · have hsame : (ofFeeds xs).feeds = (ofFeeds ys).feeds :=
      (pairwise_feeds_ofFeeds xs).eq_of_mem_iff (pairwise_feeds_ofFeeds ys) fun id => by
        rw [mem_feeds_ofFeeds, mem_feeds_ofFeeds, h]
    exact congrArg river hsame

/-! ### Keys -/

/-- A numeral consists of digits and perhaps a sign. -/
theorem mem_toList_repr {id : Int} {c : Char} (h : c ∈ id.repr.toList) :
    c = '-' ∨ c.isDigit = true := by
  have hdigit : ∀ {n : Nat}, c ∈ n.repr.toList → c.isDigit = true := by
    intro n hc
    rw [Nat.toList_repr] at hc
    exact Nat.isDigit_of_mem_toDigits (by decide) (by decide) hc
  rw [Int.repr_eq_if] at h
  split at h
  · exact .inr (hdigit h)
  · rw [String.toList_append] at h
    rcases List.mem_append.mp h with h | h
    · exact .inl (List.mem_singleton.mp h)
    · exact .inr (hdigit h)

theorem toList_repr_ne_nil (id : Int) : id.repr.toList ≠ [] := by
  have hnat : ∀ n : Nat, n.repr.toList ≠ [] := fun n => by
    rw [Nat.toList_repr]
    exact Nat.toDigits_ne_nil
  rw [Int.repr_eq_if]
  split
  · exact hnat _
  · simp

/-- What stands behind the mark of a river: the numerals with commas between. -/
theorem toList_intercalate_toString (ids : List Int) :
    (",".intercalate (ids.map toString)).toList =
      [','].intercalate (ids.map fun id => id.repr.toList) := by
  rw [String.toList_intercalate, List.map_map]
  rfl

/-- **A list of feeds is read off its text.** The text of the empty list is split into one part too,
but into an empty one, which no numeral is. -/
theorem splitOn_intercalate_repr (ids : List Int) :
    ([','].intercalate (ids.map fun id => id.repr.toList)).splitOn ',' =
      if ids = [] then [[]] else ids.map fun id => id.repr.toList := by
  split
  · next hnil =>
    rw [hnil]
    rfl
  · next hne =>
    refine List.splitOn_intercalate ',' ?_ (by simpa using hne)
    intro numeral hnumeral hcomma
    obtain ⟨id, -, rfl⟩ := List.mem_map.mp hnumeral
    rcases mem_toList_repr hcomma with hsign | hdigit
    · cases hsign
    · cases hdigit

theorem intercalate_repr_inj {xs ys : List Int}
    (h : ",".intercalate (xs.map toString) = ",".intercalate (ys.map toString)) : xs = ys := by
  have hparts := congrArg (fun text : String => text.toList.splitOn ',') h
  simp only [toList_intercalate_toString, splitOn_intercalate_repr] at hparts
  have hinj : Function.Injective fun id : Int => id.repr.toList :=
    fun _ _ heq => Int.repr_inj.mp (String.toList_inj.mp heq)
  -- An empty list would be mistaken for a list with one empty numeral.
  have hempty : ∀ {zs : List Int}, [[]] ≠ zs.map fun id => id.repr.toList := by
    intro zs heq
    cases zs with
    | nil => cases heq
    | cons z zs => exact toList_repr_ne_nil z (List.cons.inj heq).1.symm
  by_cases hxs : xs = [] <;> by_cases hys : ys = []
  · rw [hxs, hys]
  · rw [if_pos hxs, if_neg hys] at hparts
    exact absurd hparts hempty
  · rw [if_neg hxs, if_pos hys] at hparts
    exact absurd hparts.symm hempty
  · rw [if_neg hxs, if_neg hys] at hparts
    exact hinj.list_map hparts

/-- **A key belongs to one source only.** -/
theorem key_injective : Function.Injective key := by
  intro a b h
  cases a with
  | feed id =>
    cases b with
    | feed id' =>
      have hid := (String.append_right_inj _).mp h
      exact congrArg feed (Int.repr_inj.mp hid)
    | river ids =>
      have hfirst := congrArg (fun text : String => text.toList.head?) h
      simp [key] at hfirst
  | river ids =>
    cases b with
    | feed id' =>
      have hfirst := congrArg (fun text : String => text.toList.head?) h
      simp [key] at hfirst
    | river ids' => exact congrArg river (intercalate_repr_inj ((String.append_right_inj _).mp h))

end Source

namespace Context

/-- **Two contexts have one key exactly if they read the same stream.** -/
theorem key_eq_key_iff (a b : Context) : a.key = b.key ↔ a.sameStream b = true := by
  rw [key, key, Source.key_injective.eq_iff, sameStream, beq_iff_eq]

end Context

end FeedReader
