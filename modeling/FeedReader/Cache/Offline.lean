import FeedReader.Cache.Tables
import FeedReader.Story.Context

/-!
# The offline cache

The cache keeps what has been fetched so that it can be read when the server cannot be
reached. The reader uses it by context, and **a cache that fails costs nothing but offline
reading**: each operation may fail, and none of the failures changes what is stored.
-/

namespace FeedReader

/-- Why the cache did not do what it was asked to do. -/
inductive CacheFault
  /-- The kind of operation does not work at the time. -/
  | outOfOrder
  /-- The tables refuse to store one of the stories. -/
  | refused
deriving DecidableEq, Repr

/-- Which operations of the cache do not work at the time. -/
structure Outage where
  load : Bool := false
  save : Bool := false
  replace : Bool := false
deriving DecidableEq, Repr

/-- The offline cache. -/
structure Cache where
  tables : Tables := {}
  outage : Outage := {}
deriving DecidableEq, Repr

namespace Cache

/-- The stories kept for a context, in the order in which they were saved. -/
def load (cache : Cache) (context : Context) : Except CacheFault (List Story) :=
  if cache.outage.load then .error .outOfOrder else .ok (cache.tables.stories context.key)

/-- Stores a batch and adds its new stories to the list of the context. -/
def save (cache : Cache) (context : Context) (batch : List Story) : Except CacheFault Cache :=
  if cache.outage.save then .error .outOfOrder
  else
    match cache.tables.save? context.key batch with
    | none => .error .refused
    | some tables => .ok { cache with tables }

/-- Stores a batch and makes it the whole list of the context. -/
def replace (cache : Cache) (context : Context) (batch : List Story) : Except CacheFault Cache :=
  if cache.outage.replace then .error .outOfOrder
  else
    match cache.tables.replace? context.key batch with
    | none => .error .refused
    | some replacement => .ok { cache with tables := replacement.tables }

/-- The cache after an attempt to write to it: what the attempt left, or what was there before. -/
def afterAttempt (cache : Cache) (attempt : Except CacheFault Cache) : Cache :=
  match attempt with
  | .ok written => written
  | .error _ => cache

end Cache

end FeedReader
