import FeedReader.Json.TextList
import FeedReader.Story.Collection

/-!
# The tables of the offline cache

Stories that were fetched are kept in two tables. The first has one row for each story,
whatever streams it was fetched under. The second **links** stories to the keys of streams,
and numbers the links of each key so that the stories of a stream can be listed in order.

There are two ways to write to the tables, and both put a batch of stories under a key:

* *saving* keeps the links of the key and adds links behind them for the stories that have
  none;
* *replacing* drops the links of the key first, and afterwards every row to which no link is
  left.

Both overwrite the rows of the batch, flags included. **A batch is written as a whole or not
at all**: the tables may refuse to store certain stories, and when one of these is met,
nothing of the batch remains.
-/

namespace FeedReader

/-- The row of a story. It has what the story has, with the pictures written as one text. -/
structure Row where
  id : StoryId
  feedId : Int
  title : String
  content : Option String
  permalink : Option String
  /-- The addresses of the pictures, as a JSON array of strings. -/
  imageUrls : String
  published : Int
  score : Int
  read : Bool
  saved : Bool
deriving DecidableEq, Repr

/-- The place of a story in the stream that is filed under a key. -/
structure Link where
  key : String
  id : StoryId
  position : Nat
deriving DecidableEq, Repr

namespace Row

def ofStory (story : Story) : Row where
  id := story.id
  feedId := story.feedId
  title := story.title
  content := story.content
  permalink := story.permalink
  imageUrls := Json.ofTextList story.imageUrls
  published := story.published
  score := story.score
  read := story.read
  saved := story.saved

/-- The story that a row keeps. A list of pictures that cannot be read counts as empty, and a
score beyond the scale as the end of the scale. -/
def toStory (row : Row) : Story where
  id := row.id
  feedId := row.feedId
  title := row.title
  content := row.content
  permalink := row.permalink
  imageUrls := (Json.textList? row.imageUrls).getD []
  published := row.published
  score := max (-1) (min 1 row.score)
  read := row.read
  saved := row.saved

/-- Puts a row in the place of the row with its id, or at the end if there is none. -/
def place (row : Row) : List Row → List Row
  | [] => [row]
  | held :: rest => if held.id = row.id then row :: rest else held :: place row rest

end Row

/-- The two tables. -/
structure Tables where
  rows : List Row := []
  links : List Link := []
  /-- The stories that the tables refuse to store. -/
  refused : List StoryId := []
deriving DecidableEq, Repr

namespace Tables

/-- The most stories that are listed for one key, however many are linked to it. -/
def listingLimit : Nat := 2000

def row? (t : Tables) (id : StoryId) : Option Row := t.rows.find? (fun row => row.id = id)

def isLinked (t : Tables) (key : String) (id : StoryId) : Bool :=
  t.links.any fun link => link.id = id ∧ link.key = key

/-- The links of a key, in the order in which they are stored. -/
def linksOf (t : Tables) (key : String) : List Link := t.links.filter (fun link => link.key = key)

/-- The position behind all links of a key. -/
def nextPosition (t : Tables) (key : String) : Nat :=
  (t.linksOf key).foldl (fun next link => max next (link.position + 1)) 0

/-! ### Writing -/

/-- A batch that is being written under a key: the tables as they stand, and the position that
the next new link gets. -/
structure Writing where
  tables : Tables
  next : Nat
deriving DecidableEq, Repr

/-- Stores the row of a story, and links it unless it is linked already. -/
def Writing.put? (key : String) (w : Writing) (story : Story) : Option Writing :=
  if story.id ∈ w.tables.refused then none
  else
    let rows := Row.place (.ofStory story) w.tables.rows
    if w.tables.isLinked key story.id then some { w with tables := { w.tables with rows } }
    else
      let links := w.tables.links ++ [⟨key, story.id, w.next⟩]
      some ⟨{ w.tables with rows, links }, w.next + 1⟩

/-- The tables after all stories of a batch have been put under a key, if none is refused. -/
def putAll? (t : Tables) (key : String) (batch : List Story) : Option Tables :=
  (batch.foldlM (Writing.put? key) ⟨t, t.nextPosition key⟩).map Writing.tables

/-- Adds a batch behind the stories of a key. -/
def save? (t : Tables) (key : String) (batch : List Story) : Option Tables :=
  if batch.isEmpty then some t else t.putAll? key batch

def unlink (t : Tables) (key : String) : Tables :=
  { t with links := t.links.filter (fun link => link.key ≠ key) }

/-- Drops the rows to which no link is left. -/
def evict (t : Tables) : Tables :=
  { t with rows := t.rows.filter fun row => t.links.any fun link => link.id = row.id }

/-- What replacing the stories of a key did. -/
structure Replacement where
  tables : Tables
  /-- The number of links that the key had before. -/
  unlinked : Nat
  /-- The number of stories that were dropped since no key has them any more. -/
  evicted : Nat
deriving DecidableEq, Repr

/-- Makes a batch the stories of a key. -/
def replace? (t : Tables) (key : String) (batch : List Story) : Option Replacement := do
  let written ← (t.unlink key).putAll? key batch
  let kept := written.evict
  pure
    { tables := kept
      unlinked := (t.linksOf key).length
      evicted := written.rows.length - kept.rows.length }

/-! ### Reading -/

/-- Puts a link before the first link of a higher position. -/
def insertLink (link : Link) : List Link → List Link
  | [] => [link]
  | l :: ls => if link.position ≤ l.position then link :: l :: ls else l :: insertLink link ls

/-- The links of a key by position. -/
def sortedLinks (t : Tables) (key : String) : List Link := (t.linksOf key).foldr insertLink []

/-- The stories of a key by position, at most `listingLimit` of them. -/
def stories (t : Tables) (key : String) : List Story :=
  (((t.sortedLinks key).filterMap fun link => t.row? link.id).take listingLimit).map Row.toStory

/-- The number of stories that are stored. -/
def storyCount (t : Tables) : Nat := t.rows.length

end Tables

end FeedReader
