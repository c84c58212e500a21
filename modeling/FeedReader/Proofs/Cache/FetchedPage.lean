import FeedReader.Proofs.Cache.Store
import FeedReader.Proofs.Text.Integer
import FeedReader.Remote.Page

/-!
# A page survives the cache

What the server sends passes through three forms before it is read offline: the answer is decoded,
the stories are written as rows, and the rows are read as stories again. **On stories that came in
an answer nothing is lost on the way**, and reading offline gives what a collection would hold that
had started over with the page.

Rows could lose two things. The pictures of a story are one text in its row; that this text gives
them back, whatever characters their addresses have, is `FeedReader.Json.textList?_ofTextList`. And
a score beyond the scale is brought onto it; but the score of a decoded story is the sign of a
number (`FeedReader.Remote.exists_score_of_mem_page`), so it is on the scale already.
-/

namespace FeedReader

namespace Remote

open Json

/-! ### The scores of a page -/

/-- A sign is on the scale. -/
theorem onScale_sign (n : Int) : max (-1) (min 1 n.sign) = n.sign := by
  rcases Int.sign_trichotomy n with hsign | hsign | hsign <;> rw [hsign] <;> rfl

/-- The score of a story is that of the breakdown with which it was sent. -/
theorem exists_score_of_storyOfValue? {v : Value} {story : Story}
    (h : storyOfValue? v = some story) : ∃ b : Breakdown, story.score = b.score := by
  obtain ⟨fields, -, h⟩ := Option.bind_eq_some_iff.mp h
  split at h
  · obtain ⟨b, -, h⟩ := Option.bind_eq_some_iff.mp h
    obtain ⟨hash, -, h⟩ := Option.bind_eq_some_iff.mp h
    obtain ⟨feedId, -, h⟩ := Option.bind_eq_some_iff.mp h
    obtain ⟨title, -, h⟩ := Option.bind_eq_some_iff.mp h
    obtain ⟨content, -, h⟩ := Option.bind_eq_some_iff.mp h
    obtain ⟨permalink, -, h⟩ := Option.bind_eq_some_iff.mp h
    obtain ⟨imageUrls, -, h⟩ := Option.bind_eq_some_iff.mp h
    obtain ⟨published, -, h⟩ := Option.bind_eq_some_iff.mp h
    obtain ⟨read, -, h⟩ := Option.bind_eq_some_iff.mp h
    obtain ⟨saved, -, h⟩ := Option.bind_eq_some_iff.mp h
    obtain rfl := Option.some.inj h
    exact ⟨b, rfl⟩
  · cases h

theorem exists_score_of_mem_page {body : List UInt8} {page : List Story}
    (h : stories? body = some page) {story : Story} (hstory : story ∈ page) :
    ∃ b : Breakdown, story.score = b.score := by
  obtain ⟨value, -, h⟩ := Option.bind_eq_some_iff.mp h
  obtain ⟨fields, -, h⟩ := Option.bind_eq_some_iff.mp h
  split at h
  · next stories =>
    -- Nothing but an array that is given can be a list of stories.
    cases stories with
    | given value =>
      cases value with
      | array items =>
        obtain ⟨item, -, hread⟩ := exists_mem_of_mem_mapM h hstory
        exact exists_score_of_storyOfValue? hread
      | _ => cases h
    | unnamed => cases h
    | cutOff => cases h
  · cases h

/-- **The row of a story that was fetched gives back the story.** -/
theorem onScale_of_mem_page {body : List UInt8} {page : List Story}
    (h : stories? body = some page) {story : Story} (hstory : story ∈ page) :
    story.onScale = story := by
  obtain ⟨b, hscore⟩ := exists_score_of_mem_page h hstory
  rw [Story.onScale, hscore, Breakdown.score, onScale_sign]
  exact congrArg (fun score => { story with score }) hscore.symm

end Remote

/-! ### The list of a key after a replacement -/

namespace Tables

/-- **What replaces the list of a key is read as a collection holds it** that starts over with the
batch, but for scores beyond the scale. -/
theorem stories_replaced (t : Tables) (key : String) (batch : List Story) (c : Collection) :
    (t.replaced key batch).stories key =
      ((c.replaceAll batch).1.stories.take listingLimit).map Story.onScale := by
  have hlisted := t.linkedIds_replaced key batch
  have hlast : ∀ id ∈ (batch.map Story.id).eraseDups, (lastCopy? id batch).isSome = true := by
    intro id hid
    rw [Option.isSome_iff_ne_none]
    exact fun hnone => lastCopy?_eq_none.mp hnone (List.mem_eraseDups.mp hid)
  have hrow : ∀ id ∈ (batch.map Story.id).eraseDups,
      (t.replaced key batch).row? id = (lastCopy? id batch).map Row.ofStory := by
    intro id hid
    obtain ⟨copy, hcopy⟩ := Option.isSome_iff_exists.mp (hlast id hid)
    rw [t.row?_replaced key batch (hlisted ▸ hid), hcopy]
    rfl
  have hrows : ∀ id ∈ (t.replaced key batch).linkedIds key,
      ((t.replaced key batch).row? id).isSome = true := by
    intro id hid
    rw [hlisted] at hid
    rw [hrow id hid, Option.isSome_map]
    exact hlast id hid
  rw [(t.ordered_replaced key batch).stories hrows, hlisted, c.stories_replaceAll,
    take_filterMap hlast, List.map_filterMap]
  refine List.filterMap_congr fun id hid => ?_
  rw [hrow id (List.mem_of_mem_take hid), Option.map_map]
  exact Option.map_congr fun copy _ => Row.toStory_ofStory copy

end Tables

/-- The stories of a collection that starts over are stories of the batch. -/
theorem Collection.mem_of_mem_replaceAll {c : Collection} {batch : List Story} {story : Story}
    (h : story ∈ (c.replaceAll batch).1.stories) : story ∈ batch := by
  rw [stories_replaceAll] at h
  obtain ⟨id, -, hlast⟩ := List.mem_filterMap.mp h
  exact List.mem_of_mem_filter (List.mem_of_getLast? hlast)

namespace Cache

/-- **A page that was fetched is read offline as it was fetched.** Whatever the cache held before,
once the stories of an answer have replaced the list of a context, reading the context gives the
stories that a collection holds which started over with them, up to the most that are listed. They
are the same stories in every part, the rows that keep them having lost nothing. -/
theorem load_of_fetched_page {body : List UInt8} {page : List Story}
    (hpage : Remote.stories? body = some page) {cache written : Cache} {context : Context}
    (hwritten : cache.replace context page = .ok written) (c : Collection) :
    (∀ story ∈ page, (Row.ofStory story).toStory = story) ∧
      written.load context =
        if cache.outage.load then .error .outOfOrder
        else .ok ((c.replaceAll page).1.stories.take Tables.listingLimit) := by
  have honScale : ∀ story ∈ page, story.onScale = story := fun _ =>
    Remote.onScale_of_mem_page hpage
  constructor
  · intro story hstory
    rw [Row.toStory_ofStory]
    exact honScale story hstory
  · obtain ⟨-, -, rfl⟩ := (cache.replace_eq_ok context page).mp hwritten
    have hlisted := cache.tables.stories_replaced context.key page c
    have hsame : ∀ story ∈ (c.replaceAll page).1.stories.take Tables.listingLimit,
        story.onScale = story := fun story hstory =>
      honScale story (Collection.mem_of_mem_replaceAll (List.mem_of_mem_take hstory))
    rw [List.map_congr_left hsame, List.map_id'] at hlisted
    rw [load, hlisted]

/-- An answer with quotes, a backslash and a control character in the address of a picture, with a
story that comes twice and with breakdowns beyond the scale. -/
def quotedAnswer : List UInt8 :=
  ["\x7b\"stories\":[",
    "\x7b\"story_hash\":\"1:a\",\"story_feed_id\":1,\"story_title\":\"draft\"\x7d,",
    "\x7b\"story_hash\":\"1:b\",\"story_feed_id\":1,\"image_urls\":[\"\\\"\\\\\\u0001é\",\"\"],",
    "\"intelligence\":\x7b\"feed\":3,\"tags\":-7\x7d\x7d,",
    "\x7b\"story_hash\":\"1:a\",\"story_feed_id\":1,\"story_title\":\"a\",",
    "\"story_content\":\"\",\"intelligence\":\x7b\"author\":7\x7d\x7d]\x7d"].flatMap Text.bytes

/-- The stories of `quotedAnswer`. -/
def quotedPage : List Story :=
  [{ id := ⟨"1:a"⟩, feedId := 1, title := "draft" },
    { id := ⟨"1:b"⟩, feedId := 1, title := "", imageUrls := ["\"\\\x01é", ""], score := -1 },
    { id := ⟨"1:a"⟩, feedId := 1, title := "a", content := some "", score := 1 }]

/-- A cache in which one story is kept for two contexts. -/
def sharedCache : Cache :=
  run {} [.save { source := .feed 1 } [{ id := ⟨"1:old"⟩, feedId := 1, title := "old" }],
    .save { source := .ofFeeds [1, 2] } [{ id := ⟨"1:old"⟩, feedId := 1, title := "old" }]]

theorem load_of_fetched_page_quoted :
    Remote.stories? quotedAnswer = some quotedPage ∧
      ∃ written, sharedCache.replace { source := .feed 1 } quotedPage = .ok written ∧
        written.load { source := .feed 1 } = .ok [quotedPage[2], quotedPage[1]] := by
  have hpage : Remote.stories? quotedAnswer = some quotedPage := by decide +kernel
  have hwritten := (sharedCache.replace_eq_ok { source := .feed 1 } quotedPage).mpr
    ⟨rfl, by decide +kernel, rfl⟩
  exact ⟨hpage, _, hwritten, (load_of_fetched_page hpage hwritten {}).2.trans (by decide +kernel)⟩

end Cache

end FeedReader
