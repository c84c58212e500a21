import FeedReader.Json.Record
import FeedReader.Story.Basic
import FeedReader.Text.Basic
import FeedReader.Text.Numeral

/-!
# Pages as the server sends them

The answer to a request for a page is a JSON record whose one field, `stories`, lists the
stories. The server describes a story in its own terms, and two of these need an
interpretation:

* the **time of publication** comes as a number or as a numeral in a string, and a string
  that is no numeral counts as the beginning of 1970;
* the **score** is a breakdown by what the user has trained. A liked author, tag or title
  decides, else a disliked one, and only when none of these says anything does the feed.
-/

namespace FeedReader.Remote

open Json

/-! ### Scores -/

/-- What the user's training makes of the parts of a story. -/
structure Breakdown where
  feed : Int := 0
  author : Int := 0
  tags : Int := 0
  title : Int := 0
deriving DecidableEq, Repr

namespace Breakdown

/-- The score of the story as a whole: -1, 0 or 1. -/
def score (b : Breakdown) : Int :=
  let best := max (max b.author b.tags) b.title
  let worst := min (min b.author b.tags) b.title
  Int.sign (if 0 < best then best else if worst < 0 then worst else b.feed)

def ofValue? (v : Value) : Option Breakdown := do
  match ← v.fields? ["feed", "author", "tags", "title"] with
  | [feed, author, tags, title] =>
    pure
      { feed := ← feed.withDefault 0 Value.int64?
        author := ← author.withDefault 0 Value.int64?
        tags := ← tags.withDefault 0 Value.int64?
        title := ← title.withDefault 0 Value.int64? }
  | _ => none

end Breakdown

/-! ### Times -/

/-- A time given by a numeral with blanks around it. -/
def timeOfText (s : String) : Int := (Text.int64? (Text.trim s.toList)).getD 0

/-- A time given by a number or by a string. -/
def time? : Value → Option Int
  | .string s => s.map timeOfText
  | v => v.int64?

/-! ### Stories -/

/-- The names of the fields of a story, in the order that a story written as an array has. -/
def storyFields : List String :=
  ["story_hash", "story_feed_id", "story_title", "story_content", "story_permalink",
   "image_urls", "story_timestamp", "read_status", "starred", "intelligence"]

def storyOfValue? (v : Value) : Option Story := do
  match ← v.fields? storyFields with
  | [hash, feedId, title, content, permalink, imageUrls, time, read, starred, intelligence] =>
    let breakdown ← intelligence.withDefault {} Breakdown.ofValue?
    pure
      { id := ⟨← hash.required Value.text?⟩
        feedId := ← feedId.required Value.int64?
        title := ← title.withDefault "" Value.text?
        content := ← content.optional Value.text?
        permalink := ← permalink.optional Value.text?
        imageUrls := ← imageUrls.withDefault [] (Value.list? Value.text?)
        published := (← time.optionalWithDefault time?).getD 0
        score := breakdown.score
        read := (← read.withDefault 0 Value.int64?) != 0
        saved := ← starred.withDefault false Value.bool? }
  | _ => none

/-- The stories of a page, if the answer of the server is a page. -/
def stories? (body : List UInt8) : Option (List Story) := do
  match ← (← Value.ofBytes? body).fields? ["stories"] with
  | [stories] => stories.required (Value.list? storyOfValue?)
  | _ => none

end FeedReader.Remote
