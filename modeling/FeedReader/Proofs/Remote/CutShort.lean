import FeedReader.Proofs.Remote.Body
import FeedReader.Proofs.Remote.Retry

/-!
# Bodies that are cut short

A connection may be closed before all the bytes have arrived that the server has announced. The
network notices this and ends the body with an error, and **an error of the network is final**: the
check of the length behind the last chunk, whose error would be a reason to repeat the request, is
never reached. So a request is repeated for its status only, and a body that is cut short ends
it however many repetitions are left (`FeedReader.Remote.exchange_of_cut_short`). A whole
body that the next attempt would have brought is not asked for
(`FeedReader.Remote.not_forall_cut_short_repeated`).
-/

namespace FeedReader.Remote

/-- Whether fewer bytes have arrived than the server has announced. -/
def Body.IsCutShort (body : Body) : Prop := body.bytes.length < body.expected

instance (body : Body) : Decidable body.IsCutShort :=
  inferInstanceAs (Decidable (body.bytes.length < body.expected))

namespace Attempt

/-- What a network does that keeps count of the announced bytes: it ends a body with an error that
is cut short. -/
def IsNoticed : Attempt → Prop
  | timeout | failed _ => True
  | answered _ body => body.IsCutShort → body.isBroken = true

instance (attempt : Attempt) : Decidable attempt.IsNoticed :=
  match attempt with
  | timeout | failed _ => inferInstanceAs (Decidable True)
  | answered _ body => inferInstanceAs (Decidable (body.IsCutShort → body.isBroken = true))

/-- Whether the server has too much to do or has an error of its own. -/
def IsBusy : Attempt → Prop
  | timeout | failed _ => False
  | answered status _ => status = 429 ∨ 500 ≤ status ∧ status < 600

instance (attempt : Attempt) : Decidable attempt.IsBusy :=
  match attempt with
  | timeout | failed _ => inferInstanceAs (Decidable False)
  | answered status _ => inferInstanceAs (Decidable (status = 429 ∨ 500 ≤ status ∧ status < 600))

/-- Whether the server has answered with success, and the body is cut short. -/
def IsCutShort : Attempt → Prop
  | timeout | failed _ => False
  | answered status body => (200 ≤ status ∧ status < 300) ∧ body.IsCutShort

instance (attempt : Attempt) : Decidable attempt.IsCutShort :=
  match attempt with
  | timeout | failed _ => inferInstanceAs (Decidable False)
  | answered status body =>
    inferInstanceAs (Decidable ((200 ≤ status ∧ status < 300) ∧ body.IsCutShort))

end Attempt

/-- A body that is noticed to be cut short is never incomplete. -/
theorem Body.read_ne_incomplete {body : Body} (h : body.IsCutShort → body.isBroken = true)
    (limit expected received : Nat) :
    body.read limit ≠ .error (.incomplete expected received) := by
  rw [read_eq]
  intro heq
  split at heq
  · cases heq
  · split at heq
    · cases heq
    · next hwhole =>
      split at heq
      · next hshort => exact hwhole (h hshort)
      · cases heq

namespace Attempt

/-- **Only the status is a reason to repeat a request.** -/
theorem isTransient_iff {attempt : Attempt} (h : attempt.IsNoticed) :
    attempt.IsTransient ↔ attempt.IsBusy := by
  cases attempt with
  | timeout | failed _ => exact Iff.rfl
  | answered status body =>
    refine ⟨fun htransient => ?_, fun hbusy => hbusy.imp_right .inl⟩
    rcases htransient with hbusy | hown | ⟨-, expected, received, hread⟩
    · exact .inl hbusy
    · exact .inr hown
    · exact absurd hread (Body.read_ne_incomplete h bodyLimit expected received)

theorem not_isBusy_of_isCutShort {attempt : Attempt} (h : attempt.IsCutShort) :
    ¬attempt.IsBusy := by
  cases attempt with
  | timeout | failed _ => exact id
  | answered status body =>
    obtain ⟨hsuccess, -⟩ := h
    rintro (hbusy | hown) <;> omega

theorem not_isBusy_of_result {attempt : Attempt} {bytes : List UInt8}
    (h : attempt.result = .ok bytes) : ¬attempt.IsBusy := by
  cases attempt with
  | timeout | failed _ => exact id
  | answered status body =>
    rw [result] at h
    split at h
    · rintro (hbusy | hown) <;> omega
    · cases h

/-- A body that is cut short has been broken off, unless it would have been too large anyway. -/
theorem result_of_cut_short {status : Nat} {body : Body} (hsuccess : 200 ≤ status ∧ status < 300)
    (hshort : body.IsCutShort) (hbroken : body.isBroken = true) :
    (answered status body).result =
      .error (if bodyLimit < body.expected then .tooLarge else .network .brokenOff) := by
  rw [result, if_pos hsuccess, Body.read_eq]
  by_cases hlarge : bodyLimit < body.expected
  · rw [if_pos (Or.inl hlarge), if_pos hlarge]
  · have hsize : ¬bodyLimit < body.bytes.length := fun hsize =>
      hlarge (Nat.lt_trans hsize hshort)
    rw [if_neg (not_or.mpr ⟨hlarge, hsize⟩), if_neg hlarge, if_pos hbroken]

theorem result_ne_ok_of_isCutShort {attempt : Attempt} (hnoticed : attempt.IsNoticed)
    (h : attempt.IsCutShort) (bytes : List UInt8) : attempt.result ≠ .ok bytes := by
  cases attempt with
  | timeout | failed _ => exact h.elim
  | answered status body =>
    rw [result_of_cut_short h.1 h.2 (hnoticed h.2)]
    exact nofun

/-- No attempt fails because its body is incomplete. -/
theorem result_ne_incomplete {attempt : Attempt} (h : attempt.IsNoticed)
    (expected received : Nat) : attempt.result ≠ .error (.incomplete expected received) := by
  intro heq
  cases attempt with
  | timeout | failed _ => cases heq
  | answered status body =>
    rw [result] at heq
    split at heq
    · exact Body.read_ne_incomplete h bodyLimit expected received heq
    · cases heq

theorem lastResult_ne_incomplete {attempt : Attempt} (h : attempt.IsNoticed)
    (maxRetries expected received : Nat) :
    attempt.lastResult maxRetries ≠ .error (.incomplete expected received) := by
  unfold lastResult
  split
  · exact nofun
  · exact result_ne_incomplete h expected received

end Attempt

section

variable {σ : Type} {server : σ → Attempt × σ} {options : Options} {known : σ} {n : Nat}

/-- The first attempt decides that the server is not too busy for. -/
theorem exchange_of_first_not_busy
    (hnoticed : ∀ k ≤ options.maxRetries, (attemptAfter server known k).IsNoticed)
    (hn : n ≤ options.maxRetries) (hbusy : ∀ k < n, (attemptAfter server known k).IsBusy)
    (hfinal : ¬(attemptAfter server known n).IsBusy) :
    exchange server options known =
      ⟨(attemptAfter server known n).result, (List.range n).map (backoff options.backoffBase),
        knownAfter server known (n + 1)⟩ :=
  exchange_of_first hn
    (fun k hk => (Attempt.isTransient_iff (hnoticed k (by omega))).mpr (hbusy k hk))
    fun htransient => hfinal ((Attempt.isTransient_iff (hnoticed n hn)).mp htransient)

end

/-- **A body that is cut short ends the request.** Let the network notice when a body is cut short.
Then the first answer with success whose body is cut short gives an error of the network, without
another attempt, however many repetitions are left. A whole body behind attempts that found the
server busy or were cut short is returned if and only if none of them was cut short. And no request
fails with an incomplete body, the one error of a body that is a reason to repeat it. -/
theorem exchange_of_cut_short {σ : Type} (server : σ → Attempt × σ) (options : Options) (known : σ)
    (hnoticed : ∀ k ≤ options.maxRetries, (attemptAfter server known k).IsNoticed) :
    (∀ n ≤ options.maxRetries, (∀ k < n, (attemptAfter server known k).IsBusy) →
      ∀ status body, attemptAfter server known n = .answered status body →
        200 ≤ status ∧ status < 300 → body.IsCutShort →
        exchange server options known =
          ⟨.error (if bodyLimit < body.expected then .tooLarge else .network .brokenOff),
            (List.range n).map (backoff options.backoffBase), knownAfter server known (n + 1)⟩) ∧
      (∀ n ≤ options.maxRetries, ∀ bytes,
        (∀ k < n, (attemptAfter server known k).IsBusy ∨
          (attemptAfter server known k).IsCutShort) →
        (attemptAfter server known n).result = .ok bytes →
        ((exchange server options known).result = .ok bytes ↔
          ∀ k < n, ¬(attemptAfter server known k).IsCutShort)) ∧
      ∀ expected received : Nat,
        (exchange server options known).result ≠ .error (.incomplete expected received) := by
  refine ⟨fun n hn hbusy status body hanswered hsuccess hshort => ?_,
    fun n hn bytes hbefore hwhole => ?_, fun expected received => ?_⟩
  · have hnot : ¬(attemptAfter server known n).IsBusy := by
      rw [hanswered]
      exact Attempt.not_isBusy_of_isCutShort ⟨hsuccess, hshort⟩
    have hbroken : (Attempt.answered status body).IsNoticed := hanswered ▸ hnoticed n hn
    rw [exchange_of_first_not_busy hnoticed hn hbusy hnot, hanswered,
      Attempt.result_of_cut_short hsuccess hshort (hbroken hshort)]
  · constructor
    · intro hreturned k
      -- If no attempt before this one has been cut short, this one would have ended the request.
      induction k using Nat.strongRecOn with
      | ind k ih =>
        intro hk hshort
        have hbusy : ∀ m < k, (attemptAfter server known m).IsBusy := fun m hm =>
          (hbefore m (Nat.lt_trans hm hk)).resolve_right (ih m hm (Nat.lt_trans hm hk))
        rw [exchange_of_first_not_busy hnoticed (by omega) hbusy
          (Attempt.not_isBusy_of_isCutShort hshort)] at hreturned
        exact Attempt.result_ne_ok_of_isCutShort (hnoticed k (by omega)) hshort bytes hreturned
    · intro hnone
      have hbusy : ∀ k < n, (attemptAfter server known k).IsBusy := fun k hk =>
        (hbefore k hk).resolve_right (hnone k hk)
      rw [exchange_of_first_not_busy hnoticed hn hbusy (Attempt.not_isBusy_of_result hwhole)]
      exact hwhole
  · rcases exchangeFrom_decided server options.backoffBase 0 options.maxRetries known with
      ⟨n, hn, -, -, hexchange⟩ | ⟨-, hexchange⟩
    · rw [exchange, hexchange]
      exact Attempt.result_ne_incomplete (hnoticed n hn) expected received
    · rw [exchange, hexchange]
      exact Attempt.lastResult_ne_incomplete (hnoticed _ (Nat.le_refl _)) _ expected received

/-- The answers of a server that has an error of its own, and then closes the connection after one
of two bytes. The third answer would be whole. -/
def cutShortOnce : List Attempt :=
  [.answered 503 {}, .answered 200 { announced := some 2, chunks := [[1]], isBroken := true },
    .answered 200 { announced := some 2, chunks := [[1], [2]] }]

theorem exchange_of_cut_short_onceBusy :
    (∀ k ≤ 3, (attemptAfter prepared cutShortOnce k).IsNoticed) ∧
      (attemptAfter prepared cutShortOnce 0).IsBusy ∧
      (attemptAfter prepared cutShortOnce 1).IsCutShort ∧
      exchange prepared { maxRetries := 3, backoffBase := { seconds := 1 } } cutShortOnce =
        ⟨.error (.network .brokenOff), [{ seconds := 1 }], cutShortOnce.drop 2⟩ := by
  have hnoticed : ∀ k ≤ 3, (attemptAfter prepared cutShortOnce k).IsNoticed := by decide
  have hbusy : ∀ k < 1, (attemptAfter prepared cutShortOnce k).IsBusy := by decide
  refine ⟨hnoticed, hbusy 0 Nat.one_pos, by decide, ?_⟩
  exact (exchange_of_cut_short prepared { maxRetries := 3, backoffBase := { seconds := 1 } }
    cutShortOnce hnoticed).1 1 (by decide) hbusy 200
      { announced := some 2, chunks := [[1]], isBroken := true } rfl (by decide) (by decide)

/-- **A body that is cut short is not asked for again**, though the next attempt would bring a whole
one. -/
theorem not_forall_cut_short_repeated :
    ¬∀ (σ : Type) (server : σ → Attempt × σ) (options : Options) (known : σ) (n : Nat)
      (bytes : List UInt8),
      (∀ k ≤ options.maxRetries, (attemptAfter server known k).IsNoticed) →
      n ≤ options.maxRetries →
      (∀ k < n, (attemptAfter server known k).IsBusy ∨ (attemptAfter server known k).IsCutShort) →
      (attemptAfter server known n).result = .ok bytes →
      (exchange server options known).result = .ok bytes := by
  intro h
  have hwrong := h (List Attempt) prepared { maxRetries := 3 } cutShortOnce 2 [1, 2] (by decide)
    (by decide) (by decide) rfl
  cases hwrong

end FeedReader.Remote
