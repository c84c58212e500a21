import FeedReader.Proofs.Json.Record
import FeedReader.Proofs.Json.Spelling.Value
import FeedReader.Remote.Page

/-!
# Every page is decoded

The server has much freedom in how it sends a page. Objects name their members in any order, with
members among them that the reader does not know; texts are escaped in any way; what is absent may
be left out or null; a time is a number or a numeral in a string; and a score is broken down in any
way that comes to it. **Whatever the server makes of this freedom, the stories that it means are the
stories that are read** (`FeedReader.Remote.stories?_of_spelling`), in their order and with nothing
lost or changed.

The layers are taken one by one. That every spelling of a value is read as the value is
`FeedReader.Json.Value.Spelling.ofBytes?`, and that members are found whatever their order is
`FeedReader.Json.IsRecord.fields?`. What is left for this module is the meaning of each member.
-/

namespace FeedReader

namespace Remote

open Json

/-! ### Scores -/

/-- A breakdown comes to a score: some part is liked, or none is and some part is disliked, or the
parts say nothing and the feed decides. -/
inductive Breakdown.ComesTo (b : Breakdown) : Int → Prop
  | liked (h : 0 < b.author ∨ 0 < b.tags ∨ 0 < b.title) : ComesTo b 1
  | disliked (hnone : b.author ≤ 0 ∧ b.tags ≤ 0 ∧ b.title ≤ 0)
      (h : b.author < 0 ∨ b.tags < 0 ∨ b.title < 0) : ComesTo b (-1)
  | byFeed (h : b.author = 0 ∧ b.tags = 0 ∧ b.title = 0) : ComesTo b b.feed.sign

theorem Breakdown.ComesTo.score_eq {b : Breakdown} {score : Int} (h : b.ComesTo score) :
    b.score = score := by
  rw [Breakdown.score]
  cases h with
  | liked h =>
    have hbest : 0 < max (max b.author b.tags) b.title := by omega
    rw [if_pos hbest, Int.sign_eq_one_of_pos hbest]
  | disliked hnone h =>
    have hbest : ¬0 < max (max b.author b.tags) b.title := by omega
    have hworst : min (min b.author b.tags) b.title < 0 := by omega
    rw [if_neg hbest, if_pos hworst, Int.sign_eq_neg_one_of_neg hworst]
  | byFeed h =>
    have hbest : ¬0 < max (max b.author b.tags) b.title := by omega
    have hworst : ¬min (min b.author b.tags) b.title < 0 := by omega
    rw [if_neg hbest, if_neg hworst]

/-- The members of a breakdown, in any order. -/
structure IsBreakdown (b : Breakdown) (members : List (StringToken × Value)) : Prop where
  record : IsRecord ["feed", "author", "tags", "title"] members
  feed : WithDefault 0 IsWord b.feed (member? "feed" members)
  author : WithDefault 0 IsWord b.author (member? "author" members)
  tags : WithDefault 0 IsWord b.tags (member? "tags" members)
  title : WithDefault 0 IsWord b.title (member? "title" members)

theorem IsBreakdown.read {b : Breakdown} {members : List (StringToken × Value)}
    (h : IsBreakdown b members) : Breakdown.ofValue? (.object members) = some b := by
  rw [Breakdown.ofValue?, h.record.fields?]
  simp only [Option.bind_some, Option.bind_eq_bind, List.map_cons, List.map_nil,
    h.feed.read IsWord.read, h.author.read IsWord.read, h.tags.read IsWord.read,
    h.title.read IsWord.read]
  rfl

/-- The value is a breakdown that comes to this score. -/
def IsScore (score : Int) (v : Value) : Prop :=
  ∃ b members, v = .object members ∧ IsBreakdown b members ∧ b.ComesTo score

/-! ### Times and flags -/

/-- The value is this time, as a number or as a numeral with blanks around it. -/
inductive IsTime : Int → Value → Prop
  | number {n : Int} {v : Value} (h : IsWord n v) : IsTime n v
  | numeral {n : Int} {s : String} (before after : List Char) {numeral : List Char}
      (hs : s.toList = before ++ numeral ++ after) (hbefore : ∀ c ∈ before, Text.isBlank c = true)
      (h : Text.NumeralSpelling n numeral) (hafter : ∀ c ∈ after, Text.isBlank c = true)
      (hfits : isInt64 n = true) : IsTime n (.string (some s))

theorem IsTime.read {n : Int} {v : Value} (h : IsTime n v) : time? v = some n := by
  cases h with
  | number h =>
    rw [h.1]
    exact if_pos h.2
  | numeral before after hs hbefore h hafter hfits =>
    rw [time?, Option.map_some, timeOfText, hs, Text.int64?_trim_of_numeral hbefore h hafter hfits]
    rfl

/-- The value says whether a story has been read: zero if not, and any other number if so. -/
def IsReadStatus (read : Bool) (v : Value) : Prop := ∃ n, IsWord n v ∧ (n = 0 ↔ read = false)

/-- The value is this flag. -/
def IsFlag (flag : Bool) (v : Value) : Prop := v = .bool flag

theorem IsFlag.read {flag : Bool} {v : Value} (h : IsFlag flag v) : v.bool? = some flag := by
  rw [h]
  rfl

/-! ### Stories -/

/-- The members that describe a story, in any order and with members of other names. -/
structure IsStory (story : Story) (members : List (StringToken × Value)) : Prop where
  record : IsRecord storyFields members
  hash : Required IsText story.id.text (member? "story_hash" members)
  feedId : Required IsWord story.feedId (member? "story_feed_id" members)
  title : WithDefault "" IsText story.title (member? "story_title" members)
  content : Optionally IsText story.content (member? "story_content" members)
  permalink : Optionally IsText story.permalink (member? "story_permalink" members)
  imageUrls : WithDefault [] IsTextList story.imageUrls (member? "image_urls" members)
  /-- A story without a time counts as published at the beginning of 1970. -/
  published : ∃ time : Option Int, time.getD 0 = story.published ∧
    Optionally IsTime time (member? "story_timestamp" members)
  read : WithDefault false IsReadStatus story.read (member? "read_status" members)
  saved : WithDefault false IsFlag story.saved (member? "starred" members)
  score : WithDefault 0 IsScore story.score (member? "intelligence" members)

/-- The value describes the story. -/
def Describes (story : Story) (v : Value) : Prop :=
  ∃ members, v = .object members ∧ IsStory story members

/-- The value is a list of descriptions of the stories. -/
def IsStoryList (stories : List Story) (v : Value) : Prop :=
  ∃ items, v = .array items ∧ List.Forall₂ Describes stories items

/-- The value is a page of the stories. -/
def IsPage (stories : List Story) (v : Value) : Prop :=
  ∃ members, v = .object members ∧ IsRecord ["stories"] members ∧
    Required IsStoryList stories (member? "stories" members)

/-- A breakdown is read that comes to the score. -/
theorem exists_breakdown {score : Int} {member : Option Value}
    (h : WithDefault 0 IsScore score member) :
    ∃ b, (Field.ofMember member).withDefault {} Breakdown.ofValue? = some b ∧ b.score = score := by
  cases h with
  | leftOut => exact ⟨{}, rfl, rfl⟩
  | given h =>
    obtain ⟨b, members, rfl, hb, hscore⟩ := h
    exact ⟨b, hb.read, hscore.score_eq⟩

theorem exists_readStatus {read : Bool} {member : Option Value}
    (h : WithDefault false IsReadStatus read member) :
    ∃ n, (Field.ofMember member).withDefault 0 Value.int64? = some n ∧ (n != 0) = read := by
  cases h with
  | leftOut => exact ⟨0, rfl, rfl⟩
  | given h =>
    obtain ⟨n, hn, hzero⟩ := h
    refine ⟨n, hn.read, ?_⟩
    cases read with
    | false => rw [hzero.mpr rfl]; rfl
    | true => exact bne_iff_ne.mpr fun h => Bool.false_ne_true (hzero.mp h).symm

/-- **A story is read from any object that describes it.** -/
theorem Describes.read {story : Story} {v : Value} (h : Describes story v) :
    storyOfValue? v = some story := by
  obtain ⟨members, rfl, h⟩ := h
  obtain ⟨time, hpublished, htime⟩ := h.published
  obtain ⟨b, hbreakdown, hscore⟩ := exists_breakdown h.score
  obtain ⟨n, hreadStatus, hread⟩ := exists_readStatus h.read
  rw [storyOfValue?, h.record.fields?]
  simp only [storyFields, List.map_cons, List.map_nil, Option.bind_eq_bind, Option.bind_some,
    hbreakdown, h.hash.read IsText.read, h.feedId.read IsWord.read, h.title.read IsText.read,
    (h.content.read IsText.read rfl).1, (h.permalink.read IsText.read rfl).1,
    h.imageUrls.read IsTextList.read, (htime.read IsTime.read rfl).2, hreadStatus,
    h.saved.read IsFlag.read, hpublished, hscore, hread]
  rfl

theorem IsStoryList.read {stories : List Story} {v : Value} (h : IsStoryList stories v) :
    v.list? storyOfValue? = some stories := by
  obtain ⟨items, rfl, hitems⟩ := h
  exact mapM_of_forall₂ (hitems.imp fun _ _ => Describes.read).flip

/-- **Every page is decoded.** A text that spells a page of some stories is read as these
stories. -/
theorem stories?_of_spelling {stories : List Story} {v : Value} {page : String}
    (hpage : IsPage stories v) (hspelling : v.Spelling page) :
    stories? (Text.bytes page) = some stories := by
  obtain ⟨members, rfl, hrecord, hstories⟩ := hpage
  rw [stories?, hspelling.ofBytes?]
  simp only [Option.bind_eq_bind, Option.bind_some, hrecord.fields?, List.map_cons, List.map_nil]
  exact hstories.read IsStoryList.read

/-! ### Any stories can be sent -/

/-- What the server can say of a story: its numbers fit a word, and its score is on the scale. -/
structure IsSendable (story : Story) : Prop where
  feedId : isInt64 story.feedId = true
  published : isInt64 story.published = true
  score : story.score = -1 ∨ story.score = 0 ∨ story.score = 1

/-- A description of a story that leaves no member out. -/
def description (story : Story) : List (StringToken × Value) :=
  let text (s : String) : Value := .string (some s)
  [(some "story_hash", text story.id.text), (some "story_feed_id", .int story.feedId),
    (some "story_title", text story.title),
    (some "story_content", (story.content.map text).getD .null),
    (some "story_permalink", (story.permalink.map text).getD .null),
    (some "image_urls", .array (story.imageUrls.map text)),
    (some "story_timestamp", .int story.published),
    (some "read_status", .int (if story.read then 1 else 0)), (some "starred", .bool story.saved),
    (some "intelligence", .object [(some "feed", .int story.score)])]

theorem IsSendable.isStory {story : Story} (h : IsSendable story) :
    IsStory story (description story) where
  record := ⟨by simp [description], by simp [description, storyFields]⟩
  hash := .given rfl
  feedId := .given ⟨rfl, h.feedId⟩
  title := .given rfl
  content := by
    cases hcontent : story.content <;> simp only [description, hcontent]
    · exact .null
    · exact .given rfl
  permalink := by
    cases hpermalink : story.permalink <;> simp only [description, hpermalink]
    · exact .null
    · exact .given rfl
  imageUrls := .given rfl
  published := ⟨some story.published, rfl, .given (.number ⟨rfl, h.published⟩)⟩
  read := .given ⟨_, ⟨rfl, by cases story.read <;> decide⟩, by cases story.read <;> decide⟩
  saved := .given rfl
  score := by
    have hfits : isInt64 story.score = true := by
      rcases h.score with hscore | hscore | hscore <;> rw [hscore] <;> decide
    have hsign : story.score.sign = story.score := by
      rcases h.score with hscore | hscore | hscore <;> rw [hscore] <;> rfl
    have hscore : ({ feed := story.score } : Breakdown).ComesTo story.score.sign :=
      .byFeed ⟨rfl, rfl, rfl⟩
    rw [hsign] at hscore
    exact .given ⟨_, _, rfl, ⟨⟨by simp, by simp⟩, .given ⟨rfl, hfits⟩, .leftOut, .leftOut,
      .leftOut⟩, hscore⟩

/-- **Any stories have a page**, and the page has a spelling. -/
theorem exists_spelled_page {stories : List Story} (h : ∀ story ∈ stories, IsSendable story) :
    ∃ v page, IsPage stories v ∧ v.Spelling page := by
  have hitems : List.Forall₂ Describes stories
      (stories.map fun story => .object (description story)) :=
    List.forall₂_map_right_iff.mpr
      (List.forall₂_same.mpr fun story hmem => ⟨_, rfl, (h story hmem).isStory⟩)
  have hpage : IsPage stories (.object [(some "stories", .array _)]) :=
    ⟨_, rfl, ⟨by simp, by simp⟩, .given ⟨_, rfl, hitems⟩⟩
  obtain ⟨page, hspelling⟩ := Value.exists_spelling _
  exact ⟨_, page, hpage, hspelling⟩

/-- A page of one story, whose score a disliked tag decides. The hash is escaped in three ways, the
time is a numeral with blanks around it, and two members have names of their own. -/
def spelledPage : String :=
  "\x7b\"code\":-0,\"stories\":[\x7b\"story_feed_id\":1,\"new\":null," ++
    "\"story_hash\": \t\"1:\\u0061\\uD83d\\uDE00\\/\",\"story_content\":null," ++
    "\"story_timestamp\":\" +007 \",\"read_status\":2," ++
    "\"intelligence\":\x7b\"tags\":-1\x7d\x7d]\x7d"

/-- The members that describe the story of this page. -/
def spelledMembers : List (StringToken × Value) :=
  [(some "story_feed_id", .int 1), (some "new", .null),
    (some "story_hash", .string (some "1:a😀/")), (some "story_content", .null),
    (some "story_timestamp", .string (some " +007 ")), (some "read_status", .int 2),
    (some "intelligence", .object [(some "tags", .int (-1))])]

/-- What the page spells. -/
def spelledValue : Value :=
  .object [(some "code", .otherNumber), (some "stories", .array [.object spelledMembers])]

/-- The story of the page. -/
def spelledStory : Story :=
  { id := ⟨"1:a😀/"⟩, feedId := 1, title := "", published := 7, score := -1, read := true }

theorem isStory_spelledMembers : IsStory spelledStory spelledMembers where
  record := ⟨by decide, by decide⟩
  hash := .given rfl
  feedId := .given ⟨rfl, by decide⟩
  title := .leftOut
  content := .null
  permalink := .leftOut
  imageUrls := .leftOut
  published := ⟨some 7, rfl, .given
    (.numeral [' '] [' '] (by decide +kernel) (List.forall_mem_singleton.mpr rfl) (.plus 2 7)
      (List.forall_mem_singleton.mpr rfl) (by decide))⟩
  read := .given ⟨2, ⟨rfl, by decide⟩, by decide⟩
  saved := .leftOut
  score := .given ⟨{ tags := -1 }, _, rfl,
    ⟨⟨by decide, by decide⟩, .leftOut, .leftOut, .given ⟨rfl, by decide⟩, .leftOut⟩,
    .disliked (by decide) (by decide)⟩

theorem spelling_spelledPage : spelledValue.Spelling spelledPage := by
  have hlower : ∀ n < 16, IsHexDigit n (Text.hexDigit n) := fun _ => isHexDigit_hexDigit
  have hupper : ∀ n < 16, IsHexDigit n (Text.upperHexDigit n) := fun _ => isHexDigit_upperHexDigit
  have hunit : UnitSpelling 'a'.toNat ['0', '0', '6', '1'] :=
    .digits (hlower 0 (by decide)) (hlower 0 (by decide)) (hlower 6 (by decide))
      (hlower 1 (by decide))
  have hlead : UnitSpelling (0xD800 + ('😀'.toNat - 0x10000) / 0x400) ['D', '8', '3', 'd'] :=
    .digits (hupper 13 (by decide)) (hlower 8 (by decide)) (hlower 3 (by decide))
      (hlower 13 (by decide))
  have htrail : UnitSpelling (0xDC00 + ('😀'.toNat - 0x10000) % 0x400) ['D', 'E', '0', '0'] :=
    .digits (hupper 13 (by decide)) (hupper 14 (by decide)) (hlower 0 (by decide))
      (hlower 0 (by decide))
  have htext : TextSpelling "1:a😀/".toList "1:\\u0061\\uD83d\\uDE00\\/".toList :=
    .cons (.plain ⟨by decide, by decide, by decide⟩)
      (.cons (.plain ⟨by decide, by decide, by decide⟩)
        (.cons (.unit hunit) (.cons (.pair (by decide) hlead htrail)
          (.cons (.letter (by decide)) .nil))))
  have hblanks : AreBlanks [' ', '\t'] :=
    List.forall_mem_cons.mpr ⟨rfl, List.forall_mem_singleton.mpr rfl⟩
  have hhash : TokensSpelling [.string (some "1:a😀/")]
      " \t\"1:\\u0061\\uD83d\\uDE00\\/\"".toList :=
    .cons hblanks (.text htext) (.nil areBlanks_nil)
  -- All tokens but the hash are spelled plainly.
  have hpage : spelledPage.toList =
      (spelledValue.tokens.take 19).flatMap Token.plain ++
        " \t\"1:\\u0061\\uD83d\\uDE00\\/\"".toList ++
          (spelledValue.tokens.drop 20).flatMap Token.plain := by
    decide +kernel
  have htokens : spelledValue.tokens.take 19 ++ [.string (some "1:a😀/")] ++
      spelledValue.tokens.drop 20 = spelledValue.tokens := by
    decide +kernel
  have hspelled := ((tokensSpelling_plain (spelledValue.tokens.take 19)).append hhash).append
    (tokensSpelling_plain (spelledValue.tokens.drop 20))
  rw [Value.Spelling, hpage]
  exact htokens ▸ hspelled

theorem stories?_of_spelling_spelledPage :
    stories? (Text.bytes spelledPage) = some [spelledStory] :=
  stories?_of_spelling ⟨_, rfl, ⟨by decide, by decide⟩,
    .given ⟨_, rfl, .cons ⟨_, rfl, isStory_spelledMembers⟩ .nil⟩⟩ spelling_spelledPage

end Remote

end FeedReader
