import FeedReader.Remote.Backoff
import Mathlib.Algebra.Group.Nat.Defs
import Mathlib.Order.MinMax

/-!
# How long a wait is

A wait is a multiple of its base, and it stops growing in two places: the factor is a word of 32
bits, and the seconds of a duration are a word of 64 bits. The nanoseconds that make up whole
seconds are carried over before the seconds are compared, so that nothing is lost at the second
place: **a wait is the product in nanoseconds, or the longest duration if that is less**
(`FeedReader.Remote.backoff_exact`).

So waits never become shorter from one repetition to the next, and each is twice the one before as
long as both limits are far.
-/

namespace FeedReader

namespace Duration

/-- The longest duration is the last one before the seconds no longer fit. -/
theorem total_longest : longest.total + 1 = limit * nanosecondsPerSecond := by decide

variable (d : Duration) (n : Nat)

/-- What is carried over to the seconds of a multiple does not change the whole. -/
theorem total_carried :
    (d.seconds * n + d.nanoseconds * n / nanosecondsPerSecond) * nanosecondsPerSecond +
        d.nanoseconds * n % nanosecondsPerSecond =
      d.total * n := by
  have hcarry := Nat.div_add_mod' (d.nanoseconds * n) nanosecondsPerSecond
  rw [total, Nat.add_mul, Nat.add_mul, Nat.add_assoc, hcarry, Nat.mul_right_comm]

/-- A multiple is a duration again. -/
theorem isNormal_times : (d.times n).isNormal = true := by
  have hrest : d.nanoseconds * n % nanosecondsPerSecond < nanosecondsPerSecond :=
    Nat.mod_lt _ (by decide)
  rw [times]
  split
  · next hfits => simp [isNormal, hfits, hrest]
  · decide

/-- **A multiple in nanoseconds** is the product, or the longest duration if that is less. -/
theorem total_times : (d.times n).total = min (d.total * n) longest.total := by
  have hcarried := d.total_carried n
  have hrest : d.nanoseconds * n % nanosecondsPerSecond < nanosecondsPerSecond :=
    Nat.mod_lt _ (by decide)
  rw [times]
  split
  · next hfits =>
    have hlt : d.total * n < longest.total + 1 := by
      rw [total_longest, ← hcarried]
      calc _ < (d.seconds * n + d.nanoseconds * n / nanosecondsPerSecond + 1) *
              nanosecondsPerSecond := by
            rw [Nat.succ_mul]
            exact Nat.add_lt_add_left hrest _
        _ ≤ limit * nanosecondsPerSecond := Nat.mul_le_mul_right _ hfits
    rw [Nat.min_eq_left (Nat.le_of_lt_succ hlt)]
    exact hcarried
  · next hlong =>
    have hle : longest.total + 1 ≤ d.total * n := by
      rw [total_longest, ← hcarried]
      exact Nat.le_add_right_of_le (Nat.mul_le_mul_right _ (Nat.le_of_not_lt hlong))
    exact (Nat.min_eq_right (Nat.le_of_succ_le hle)).symm

end Duration

namespace Remote

/-- **The factor is a power of two, or the greatest word of 32 bits if that is less.** -/
theorem backoffFactor_eq (retry : Nat) : backoffFactor retry = min (2 ^ retry) (2 ^ 32 - 1) := by
  rw [backoffFactor]
  split
  · next hfew =>
    have hle : 2 ^ retry ≤ 2 ^ 31 := Nat.pow_le_pow_right Nat.two_pos (Nat.le_of_lt_succ hfew)
    exact (Nat.min_eq_left (Nat.le_trans hle (by decide))).symm
  · next hmany =>
    have hle : 2 ^ 32 ≤ 2 ^ retry := Nat.pow_le_pow_right Nat.two_pos (Nat.le_of_not_lt hmany)
    exact (Nat.min_eq_right (Nat.le_trans (Nat.sub_le _ 1) hle)).symm

theorem backoffFactor_lt (retry : Nat) : backoffFactor retry < word32 := by
  rw [backoffFactor_eq]
  exact Nat.lt_of_le_of_lt (Nat.min_le_right _ _) (by decide)

theorem backoffFactor_mono {retry retry' : Nat} (h : retry ≤ retry') :
    backoffFactor retry ≤ backoffFactor retry' := by
  rw [backoffFactor_eq, backoffFactor_eq]
  exact min_le_min_right _ (Nat.pow_le_pow_right Nat.two_pos h)

/-- The factor is doubled until the last power of two that fits. -/
theorem backoffFactor_succ {retry : Nat} (h : retry < 31) :
    backoffFactor (retry + 1) = backoffFactor retry * 2 := by
  rw [backoffFactor, backoffFactor, if_pos (by omega), if_pos (by omega)]
  rfl

/-- **A wait is exact up to saturation.** It is a duration, and its nanoseconds are those of the
base times a power of two, where the power stops at the greatest word of 32 bits and the product at
the longest duration; the nanoseconds below a second, which are multiplied first, never leave a
word of 64 bits. So a longer base or a later repetition never makes a wait shorter, and each wait
is twice the one before as long as the power and the product fit. -/
theorem backoff_exact (base : Duration) (retry : Nat) :
    (backoff base retry).isNormal = true ∧
      (backoff base retry).total =
        min (base.total * min (2 ^ retry) (2 ^ 32 - 1)) (2 ^ 64 * 1000000000 - 1) ∧
      (base.isNormal = true → base.nanoseconds * backoffFactor retry < word64) ∧
      (∀ base' retry', base.total ≤ base'.total → retry ≤ retry' →
        (backoff base retry).total ≤ (backoff base' retry').total) ∧
      (retry < 31 → base.total * 2 ^ (retry + 1) < 2 ^ 64 * 1000000000 →
        (backoff base (retry + 1)).total = (backoff base retry).total * 2) := by
  have htotal : ∀ (base : Duration) (retry : Nat), (backoff base retry).total =
      min (base.total * backoffFactor retry) Duration.longest.total :=
    fun base retry => base.total_times (backoffFactor retry)
  refine ⟨base.isNormal_times _, ?_, fun hnormal => ?_, fun base' retry' hbase hretry => ?_,
    fun hretry hfits => ?_⟩
  · rw [htotal, backoffFactor_eq]
    rfl
  · simp only [Duration.isNormal, Bool.and_eq_true, decide_eq_true_eq] at hnormal
    calc base.nanoseconds * backoffFactor retry
        ≤ Duration.nanosecondsPerSecond * word32 :=
          Nat.mul_le_mul (Nat.le_of_lt hnormal.2) (Nat.le_of_lt (backoffFactor_lt retry))
      _ < word64 := by decide
  · rw [htotal, htotal]
    exact min_le_min_right _ (Nat.mul_le_mul hbase (backoffFactor_mono hretry))
  · -- The wait before is no longer than the one that fits, so neither product is cut.
    have hpower : backoffFactor (retry + 1) ≤ 2 ^ (retry + 1) := by
      rw [backoffFactor_eq]
      exact Nat.min_le_left _ _
    have hnext : base.total * backoffFactor (retry + 1) ≤ Duration.longest.total :=
      Nat.le_of_lt_succ (Nat.lt_of_le_of_lt (Nat.mul_le_mul_left _ hpower) hfits)
    have hlast : base.total * backoffFactor retry ≤ Duration.longest.total :=
      Nat.le_trans (Nat.mul_le_mul_left _ (backoffFactor_mono (Nat.le_succ retry))) hnext
    rw [htotal, htotal, Nat.min_eq_left hnext, Nat.min_eq_left hlast, backoffFactor_succ hretry,
      Nat.mul_assoc]

/-- The last wait is less than twice the one before: the factor lacks one. -/
example : (backoff { seconds := 1 } 32).total + 1000000000 =
    (backoff { seconds := 1 } 31).total * 2 := by decide

end Remote

end FeedReader
