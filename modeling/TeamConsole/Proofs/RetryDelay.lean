import Mathlib.Algebra.Group.Nat.Defs
import TeamConsole.Sync.Refresh

/-!
# The wait before a retry

The wait doubles with each retry up to the longest one. It is worked out within the 64 bits of a
machine word: the power of two stops at the sixteenth, and the product at the largest word. Neither
limit shows, for the longest wait is reached before either of them matters.

* **`min_mul_two_pow_clamped`**: a power stopped at `2 ^ k` gives the same under a cap of at most
  `2 ^ k`.
* **`retryDelay_eq`**: the wait in exact numbers.
* **`retryDelay_succ`**: the next wait is twice this one, up to the longest.
* **`retryDelay_exact`**: the law, with what follows from it for a series of retries.
-/

namespace TeamConsole.Sync

/-- A product with a power of two is the same under a cap if the power stops at one which is not
below the cap. A product with zero stays zero, and any other is at the cap from there on. -/
theorem min_mul_two_pow_clamped {cap k : Nat} (hcap : cap ≤ 2 ^ k) (n attempt : Nat) :
    min (n * 2 ^ min attempt k) cap = min (n * 2 ^ attempt) cap := by
  by_cases hle : attempt ≤ k
  · rw [Nat.min_eq_left hle]
  · have hlt : k < attempt := Nat.lt_of_not_le hle
    rw [Nat.min_eq_right (Nat.le_of_lt hlt)]
    cases n with
    | zero => rw [Nat.zero_mul, Nat.zero_mul]
    | succ n =>
      have hstopped : cap ≤ (n + 1) * 2 ^ k :=
        Nat.le_trans hcap (Nat.le_mul_of_pos_left _ (Nat.succ_pos n))
      have hpow : 2 ^ k ≤ 2 ^ attempt := Nat.pow_le_pow_right (by decide) (Nat.le_of_lt hlt)
      have hexact : cap ≤ (n + 1) * 2 ^ attempt :=
        Nat.le_trans hstopped (Nat.mul_le_mul_left _ hpow)
      rw [Nat.min_eq_right hstopped, Nat.min_eq_right hexact]

/-- A product that stops at `limit` is the same under a cap of at most `limit`. -/
theorem min_saturated {cap limit : Nat} (hcap : cap ≤ limit) (n : Nat) :
    min (min n limit) cap = min n cap := by
  rw [Nat.min_assoc, Nat.min_eq_right hcap]

/-- The wait before a retry, in exact numbers. -/
theorem retryDelay_eq (initialMs attempt : Nat) :
    retryDelay initialMs attempt = min (initialMs * 2 ^ attempt) maxRetryDelayMs := by
  have hword : maxRetryDelayMs ≤ Nat.pow 2 64 - 1 := by decide
  have hpower : maxRetryDelayMs ≤ 2 ^ 16 := by decide
  calc retryDelay initialMs attempt
      = min (initialMs * 2 ^ min attempt 16) maxRetryDelayMs := min_saturated hword _
    _ = min (initialMs * 2 ^ attempt) maxRetryDelayMs :=
        min_mul_two_pow_clamped hpower initialMs attempt

/-- The next wait is twice this one, up to the longest. -/
theorem retryDelay_succ (initialMs attempt : Nat) :
    retryDelay initialMs (attempt + 1)
      = min (2 * retryDelay initialMs attempt) maxRetryDelayMs := by
  have hdouble : initialMs * 2 ^ (attempt + 1) = 2 * (initialMs * 2 ^ attempt) := by
    rw [Nat.pow_succ, ← Nat.mul_assoc, Nat.mul_comm]
  rw [retryDelay_eq, retryDelay_eq, hdouble]
  omega

/-- **The wait is exact.** It is the initial wait doubled once for each retry before this one, up to
two seconds, however long the initial wait is and however many retries came before. So it never
shrinks from one retry to the next, and it is never longer than the longest wait. -/
theorem retryDelay_exact (initialMs attempt : Nat) :
    retryDelay initialMs attempt = min (initialMs * 2 ^ attempt) 2000
      ∧ retryDelay initialMs attempt ≤ retryDelay initialMs (attempt + 1)
      ∧ retryDelay initialMs attempt ≤ maxRetryDelayMs := by
  have hcap : retryDelay initialMs attempt ≤ maxRetryDelayMs := by
    rw [retryDelay_eq]
    exact Nat.min_le_right _ _
  refine ⟨retryDelay_eq initialMs attempt, ?_, hcap⟩
  rw [retryDelay_succ]
  exact Nat.le_min.mpr ⟨Nat.le_mul_of_pos_left _ (by decide), hcap⟩

end TeamConsole.Sync
