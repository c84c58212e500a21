import FeedReader.Remote.Backoff
import FeedReader.Remote.Body

/-!
# Repeating a request

A server that has too much to do, that has an error of its own, or that sends less than it has
announced may do better a moment later. **Such a request is repeated, up to a number of times**,
after a wait that grows. Every other outcome is final, and so is the last attempt whatever its
outcome.
-/

namespace FeedReader.Remote

/-- What became of one attempt to make a request. -/
inductive Attempt
  /-- No answer began in time. -/
  | timeout
  | failed (fault : NetworkFault)
  | answered (status : Nat) (body : Body)
deriving DecidableEq, Repr

/-- What an attempt means for the request. -/
inductive Verdict
  | final (result : Except FetchError (List UInt8))
  /-- The request may be repeated. If it is not, this is its error. -/
  | again (error : FetchError)

/-- The greatest size of a body, in bytes. -/
def bodyLimit : Nat := 10 * 1024 * 1024

/-- What an attempt means for a request that may be repeated so many times. -/
def Attempt.verdict (maxRetries : Nat) : Attempt → Verdict
  | timeout => .final (.error .timeout)
  | failed fault => .final (.error (.network fault))
  | answered status body =>
    if status = 429 then .again (.rateLimited maxRetries)
    else if 500 ≤ status ∧ status < 600 then .again (.status status)
    else if ¬(200 ≤ status ∧ status < 300) then .final (.error (.status status))
    else
      match body.read bodyLimit with
      | .error (.incomplete expected received) => .again (.incomplete expected received)
      | result => .final result

/-- How a request ended. -/
structure Exchange (σ : Type) where
  result : Except FetchError (List UInt8)
  /-- The waits between the attempts. There is one attempt more. -/
  waits : List Duration
  /-- What the server knows then. -/
  server : σ

/-- Makes a request of a server that answers each attempt by what it knows. `retries` is the
number of repetitions so far, and `left` is the number of those that may follow. -/
def exchangeFrom {σ : Type} (server : σ → Attempt × σ) (base : Duration) (retries left : Nat)
    (known : σ) : Exchange σ :=
  let (attempt, known) := server known
  match attempt.verdict (retries + left), left with
  | .final result, _ => { result, waits := [], server := known }
  | .again error, 0 => { result := .error error, waits := [], server := known }
  | .again _, left + 1 =>
    let rest := exchangeFrom server base (retries + 1) left known
    { rest with waits := backoff base retries :: rest.waits }

/-- Makes a request of a server that answers each attempt by what it knows. -/
def exchange {σ : Type} (server : σ → Attempt × σ) (options : Options) (known : σ) : Exchange σ :=
  exchangeFrom server options.backoffBase 0 options.maxRetries known

end FeedReader.Remote
