import FeedReader.Duration

/-!
# Patience

How patient the reader is with the server: how long it waits for an answer, and how often and after
which waits it repeats a request that failed for the time being. **Each wait is twice as long as the
one before**, beginning with a base that the user of the server chooses, as long as the factor fits
32 bits. From then on it is the greatest number of 32 bits.
-/

namespace FeedReader.Remote

/-- How patient the reader is with the server. -/
structure Options where
  /-- How long to wait for the beginning of an answer. -/
  timeout : Duration := { seconds := 30 }
  /-- How often to repeat a request that failed for the time being. -/
  maxRetries : Nat := 3
  /-- How long to wait before the first repetition. -/
  backoffBase : Duration := { seconds := 2 }
deriving DecidableEq, Repr

/-- The options as they are shown to somebody who looks for a mistake. -/
def Options.summary (o : Options) : String :=
  "TransportOptions \x7b timeout: " ++ o.timeout.text ++ ", max_retries: " ++
    toString o.maxRetries ++ ", backoff_base: " ++ o.backoffBase.text ++ " \x7d"

/-- The factor of the wait before the repetition that the given number came before. -/
def backoffFactor (retry : Nat) : Nat := if retry < 32 then Nat.pow 2 retry else word32 - 1

/-- The wait before the repetition that the given number came before. -/
def backoff (base : Duration) (retry : Nat) : Duration := base.times (backoffFactor retry)

end FeedReader.Remote
