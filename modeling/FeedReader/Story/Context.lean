import FeedReader.Story.Level

/-!
# Where stories come from

Stories are read from one feed, or from several feeds mixed into one *river*. A
`Context` is such a source together with the level at which the user looks at it.

The offline cache files stories under the **key** of a context. The level is no part of
the key: it decides what is shown, never which stories belong to the stream.
-/

namespace FeedReader

/-- Where the stories of a stream come from. -/
inductive Source
  /-- A single feed. -/
  | feed (id : Int)
  /-- Several feeds mixed into one. `Source.ofFeeds` lists them in ascending order and
  without repetition, so that two rivers over the same feeds are equal. -/
  | river (ids : List Int)
deriving DecidableEq, Repr

namespace Source

/-- Puts a number into an ascending list that has no repetitions, unless it is there already. -/
def insertAscending (n : Int) : List Int → List Int
  | [] => [n]
  | m :: ms =>
    if n < m then n :: m :: ms
    else if n = m then m :: ms
    else m :: insertAscending n ms

/-- The river over these feeds. -/
def ofFeeds (ids : List Int) : Source :=
  .river (ids.foldr insertAscending [])

def isRiver : Source → Bool
  | feed _ => false
  | river _ => true

/-- The name under which the stories of this source are filed. -/
def key : Source → String
  | feed id => "feed:" ++ toString id
  | river ids => "river:" ++ ",".intercalate (ids.map toString)

/-- The feeds that are read, in the order in which they are named to the server. -/
def feeds : Source → List Int
  | feed id => [id]
  | river ids => ids

end Source

/-- A source of stories, and the level at which the user looks at it. -/
structure Context where
  source : Source
  level : Level := .standard
deriving DecidableEq, Repr

namespace Context

/-- The name under which the stories of this context are filed. -/
def key (context : Context) : String := context.source.key

/-- Whether both contexts read the same stories, whatever they show of them. -/
def sameStream (a b : Context) : Bool := a.source == b.source

end Context

end FeedReader
