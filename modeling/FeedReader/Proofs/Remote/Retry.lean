import FeedReader.Remote.Retry

/-!
# Which attempt decides

A request is made up to a number of times, and the outcomes of the attempts may be anything in any
order. **The first attempt decides that is not transient**, and if there is none then the last one
does (`FeedReader.Remote.exchange_decided`). No attempt is made after the one that decides, and the
waits before it are the first ones of the schedule, one before each repetition.

The three kinds of transient outcomes share one count. What a request has left is therefore known
from the number of attempts alone, whatever their outcomes were
(`FeedReader.Remote.exchangeFrom_decided`).
-/

namespace FeedReader.Remote

/-- Whether an attempt may go better a moment later: the server has too much to do, has an error of
its own, or has sent less than announced. -/
def Attempt.IsTransient : Attempt → Prop
  | timeout | failed _ => False
  | answered status body =>
    status = 429 ∨ (500 ≤ status ∧ status < 600) ∨
      (200 ≤ status ∧ status < 300) ∧
        ∃ expected received, body.read bodyLimit = .error (.incomplete expected received)

/-- What an attempt gives by itself. -/
def Attempt.result : Attempt → Except FetchError (List UInt8)
  | timeout => .error .timeout
  | failed fault => .error (.network fault)
  | answered status body =>
    if 200 ≤ status ∧ status < 300 then body.read bodyLimit else .error (.status status)

/-- What an attempt gives when it was the last one, after so many repetitions. -/
def Attempt.lastResult (maxRetries : Nat) : Attempt → Except FetchError (List UInt8)
  | answered 429 _ => .error (.rateLimited maxRetries)
  | attempt => attempt.result

/-! ### What an attempt means -/

theorem Attempt.verdict_of_final (maxRetries : Nat) {attempt : Attempt}
    (h : ¬attempt.IsTransient) : attempt.verdict maxRetries = .final attempt.result := by
  cases attempt with
  | timeout => rfl
  | failed fault => rfl
  | answered status body =>
    simp only [IsTransient, not_or] at h
    obtain ⟨hbusy, hown, hshort⟩ := h
    rw [verdict, if_neg hbusy, if_neg hown, result]
    by_cases hsuccess : 200 ≤ status ∧ status < 300
    · rw [if_neg (not_not_intro hsuccess), if_pos hsuccess]
      split
      · next expected received hread => exact absurd ⟨hsuccess, expected, received, hread⟩ hshort
      · rfl
    · rw [if_pos hsuccess, if_neg hsuccess]

theorem Attempt.verdict_of_transient (maxRetries : Nat) {attempt : Attempt}
    (h : attempt.IsTransient) : ∃ error,
      attempt.verdict maxRetries = .again error ∧
        attempt.lastResult maxRetries = .error error := by
  cases attempt with
  | timeout => exact h.elim
  | failed fault => exact h.elim
  | answered status body =>
    rcases h with rfl | hown | ⟨hsuccess, expected, received, hread⟩
    · exact ⟨.rateLimited maxRetries, rfl, rfl⟩
    · have hbusy : status ≠ 429 := by omega
      refine ⟨.status status, by rw [verdict, if_neg hbusy, if_pos hown], ?_⟩
      rw [lastResult, result, if_neg (by omega)]
      rintro _ heq
      exact hbusy (Attempt.answered.inj heq).1
    · have hbusy : status ≠ 429 := by omega
      refine ⟨.incomplete expected received, ?_, ?_⟩
      · rw [verdict, if_neg hbusy, if_neg (by omega), if_neg (not_not_intro hsuccess), hread]
      · rw [lastResult, result, if_pos hsuccess, hread]
        rintro _ heq
        exact hbusy (Attempt.answered.inj heq).1

/-! ### One attempt after another -/

section

variable {σ : Type} (server : σ → Attempt × σ)

/-- What the server knows after so many attempts. -/
def knownAfter (known : σ) : Nat → σ
  | 0 => known
  | n + 1 => knownAfter (server known).2 n

/-- What becomes of an attempt that so many others have been made before. -/
def attemptAfter (known : σ) (n : Nat) : Attempt := (server (knownAfter server known n)).1

variable (base : Duration) (retries left : Nat) {known : σ}

theorem exchangeFrom_of_final (h : ¬(attemptAfter server known 0).IsTransient) :
    exchangeFrom server base retries left known =
      ⟨(attemptAfter server known 0).result, [], knownAfter server known 1⟩ := by
  have hverdict := Attempt.verdict_of_final (retries + left) h
  rw [attemptAfter, knownAfter] at hverdict
  rw [exchangeFrom]
  simp only [hverdict]
  rfl

theorem exchangeFrom_of_last (h : (attemptAfter server known 0).IsTransient) :
    exchangeFrom server base retries 0 known =
      ⟨(attemptAfter server known 0).lastResult retries, [], knownAfter server known 1⟩ := by
  obtain ⟨error, hverdict, hlast⟩ := Attempt.verdict_of_transient retries h
  rw [attemptAfter, knownAfter] at hverdict hlast
  rw [exchangeFrom, attemptAfter, knownAfter, hlast]
  simp only [Nat.add_zero, hverdict]
  rfl

theorem exchangeFrom_of_transient (h : (attemptAfter server known 0).IsTransient) :
    exchangeFrom server base retries (left + 1) known =
      let rest := exchangeFrom server base (retries + 1) left (server known).2
      { rest with waits := backoff base retries :: rest.waits } := by
  obtain ⟨error, hverdict, -⟩ := Attempt.verdict_of_transient (retries + (left + 1)) h
  rw [attemptAfter, knownAfter] at hverdict
  rw [exchangeFrom]
  simp only [hverdict]

/-- **The first attempt decides that is not transient, or else the last one.** Each attempt that
does not decide is followed by a wait, which only the number of attempts before it fixes. -/
theorem exchangeFrom_decided (known : σ) :
    (∃ n ≤ left, (∀ k < n, (attemptAfter server known k).IsTransient) ∧
      ¬(attemptAfter server known n).IsTransient ∧
      exchangeFrom server base retries left known =
        ⟨(attemptAfter server known n).result, (List.range' retries n).map (backoff base),
          knownAfter server known (n + 1)⟩) ∨
    ((∀ k ≤ left, (attemptAfter server known k).IsTransient) ∧
      exchangeFrom server base retries left known =
        ⟨(attemptAfter server known left).lastResult (retries + left),
          (List.range' retries left).map (backoff base), knownAfter server known (left + 1)⟩) := by
  induction left generalizing retries known with
  | zero =>
    by_cases hfirst : (attemptAfter server known 0).IsTransient
    · refine .inr ⟨fun k hk => ?_, exchangeFrom_of_last server base retries hfirst⟩
      rwa [Nat.le_zero.mp hk]
    · refine .inl ⟨0, Nat.le_refl 0, fun k hk => absurd hk (Nat.not_lt_zero k), hfirst, ?_⟩
      exact exchangeFrom_of_final server base retries 0 hfirst
  | succ left ih =>
    by_cases hfirst : (attemptAfter server known 0).IsTransient
    · -- The attempts that are left are those after the first one.
      have hfrom := exchangeFrom_of_transient server base retries left hfirst
      rcases ih (retries + 1) (server known).2 with
        ⟨n, hn, htransient, hfinal, hrest⟩ | ⟨htransient, hrest⟩
      · refine .inl ⟨n + 1, Nat.succ_le_succ hn, ?_, hfinal, ?_⟩
        · rintro (_ | k) hk
          · exact hfirst
          · exact htransient k (Nat.lt_of_succ_lt_succ hk)
        · rw [hfrom, hrest, List.range'_succ]
          rfl
      · refine .inr ⟨?_, ?_⟩
        · rintro (_ | k) hk
          · exact hfirst
          · exact htransient k (Nat.le_of_succ_le_succ hk)
        · rw [hfrom, hrest, List.range'_succ, Nat.add_right_comm]
          rfl
    · refine .inl ⟨0, Nat.zero_le _, fun k hk => absurd hk (Nat.not_lt_zero k), hfirst, ?_⟩
      exact exchangeFrom_of_final server base retries (left + 1) hfirst

end

/-- The first attempt that is not transient decides if it may be made. -/
theorem exchange_of_first {σ : Type} {server : σ → Attempt × σ} {options : Options} {known : σ}
    {n : Nat} (hn : n ≤ options.maxRetries)
    (htransient : ∀ k < n, (attemptAfter server known k).IsTransient)
    (hfinal : ¬(attemptAfter server known n).IsTransient) :
    exchange server options known =
      ⟨(attemptAfter server known n).result, (List.range n).map (backoff options.backoffBase),
        knownAfter server known (n + 1)⟩ := by
  rcases exchangeFrom_decided server options.backoffBase 0 options.maxRetries known with
    ⟨m, -, hbefore, hdecides, hexchange⟩ | ⟨hall, -⟩
  · obtain hlt | rfl | hgt := Nat.lt_trichotomy m n
    · exact absurd (htransient m hlt) hdecides
    · rw [exchange, hexchange, List.range_eq_range']
    · exact absurd (hbefore n hgt) hfinal
  · exact absurd (hall n hn) hfinal

/-- **Which attempt decides.** If one of the attempts that may be made is not transient, the first
such one is the last that is made, and its result is the result of the request. Otherwise all of
them are made, and the request fails as the last one did, with the number of repetitions if the
server has too much to do. The waits are the first ones of the schedule. -/
theorem exchange_decided {σ : Type} (server : σ → Attempt × σ) (options : Options) (known : σ) :
    (∃ n ≤ options.maxRetries, (∀ k < n, (attemptAfter server known k).IsTransient) ∧
      ¬(attemptAfter server known n).IsTransient ∧
      exchange server options known =
        ⟨(attemptAfter server known n).result, (List.range n).map (backoff options.backoffBase),
          knownAfter server known (n + 1)⟩) ∨
    ((∀ k ≤ options.maxRetries, (attemptAfter server known k).IsTransient) ∧
      exchange server options known =
        ⟨(attemptAfter server known options.maxRetries).lastResult options.maxRetries,
          (List.range options.maxRetries).map (backoff options.backoffBase),
          knownAfter server known (options.maxRetries + 1)⟩) := by
  have hdecided := exchangeFrom_decided server options.backoffBase 0 options.maxRetries known
  simp only [Nat.zero_add, ← List.range_eq_range'] at hdecided
  exact hdecided

/-- A server whose answers have been prepared. -/
def prepared : List Attempt → Attempt × List Attempt
  | [] => (.timeout, [])
  | attempt :: attempts => (attempt, attempts)

/-- The server has too much to do, then it has an error of its own, and then it sends less than
announced. The fourth attempt gets the whole body, and there is no fifth one. -/
example :
    let body : Body := { announced := some 2, chunks := [[1], [2]] }
    exchange prepared { backoffBase := { seconds := 1 } }
        [.answered 429 {}, .answered 503 {}, .answered 200 { body with chunks := [[1]] },
          .answered 200 body, .timeout] =
      ⟨.ok [1, 2], [{ seconds := 1 }, { seconds := 2 }, { seconds := 4 }], [.timeout]⟩ := by
  rfl

end FeedReader.Remote
