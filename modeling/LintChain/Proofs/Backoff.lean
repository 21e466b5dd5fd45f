import LintChain.Retry
import Mathlib.Algebra.Order.Ring.Nat
import Mathlib.Tactic.Common

/-!
The pauses between retries, in numbers. A pause is meant to be the first one doubled with every
retry, up to the limit. That the product stops at the longest span is never seen, for the limit is a
span itself. That the power of two stops at 32 bits is: where the limit is not reached by then,
pauses stop growing below it.
-/

namespace LintChain

namespace RetryPolicy

variable {policy : RetryPolicy} {i j : UInt32}

/-- The first pause doubled with every retry, up to the limit. -/
def doubled (policy : RetryPolicy) (attempt : UInt32) : ℕ :=
  min policy.maxBackoff.nanos (policy.backoff.nanos * 2 ^ attempt.toNat)

lemma lt_32_iff : i < 32 ↔ i.toNat < 32 := UInt32.lt_iff_toNat_lt

lemma two_pow_le_of_lt {n : ℕ} (h : n < 32) : 2 ^ n ≤ 4294967295 := by
  have hpow : 2 ^ n ≤ 2 ^ 31 := Nat.pow_le_pow_right Nat.two_pos (Nat.le_of_lt_succ h)
  omega

lemma two_pow_ge_of_ge {n : ℕ} (h : ¬ n < 32) : 4294967296 ≤ 2 ^ n :=
  Nat.pow_le_pow_right Nat.two_pos (Nat.not_lt.mp h)

lemma factor_eq (attempt : UInt32) : factor attempt = min (2 ^ attempt.toNat) (2 ^ 32 - 1) := by
  unfold factor
  simp only [lt_32_iff, Nat.pow_eq]
  split
  next hlt =>
    have := two_pow_le_of_lt hlt
    omega
  next hge =>
    have := two_pow_ge_of_ge hge
    omega

lemma factor_mono (h : i ≤ j) : factor i ≤ factor j := by
  have hpow : 2 ^ i.toNat ≤ 2 ^ j.toNat :=
    Nat.pow_le_pow_right Nat.two_pos (UInt32.le_iff_toNat_le.mp h)
  rw [factor_eq, factor_eq]
  omega

/-- The product is never cut off at the longest span: the limit comes first. -/
lemma nanos_delay (policy : RetryPolicy) (attempt : UInt32) : (policy.delay attempt).nanos =
    min policy.maxBackoff.nanos (policy.backoff.nanos * factor attempt) := by
  have hlimit := policy.maxBackoff.nanos_le
  rw [delay, Duration.nanos_min, Duration.nanos_scale]
  omega

lemma delay_mono (h : i ≤ j) : policy.delay i ≤ policy.delay j := by
  show (policy.delay i).nanos ≤ (policy.delay j).nanos
  have hproduct := Nat.mul_le_mul_left policy.backoff.nanos (factor_mono h)
  rw [nanos_delay, nanos_delay]
  omega

lemma delay_le_maxBackoff (i : UInt32) : policy.delay i ≤ policy.maxBackoff := by
  show (policy.delay i).nanos ≤ policy.maxBackoff.nanos
  rw [nanos_delay]
  exact Nat.min_le_left _ _

lemma delay_le_doubled (policy : RetryPolicy) (attempt : UInt32) :
    (policy.delay attempt).nanos ≤ policy.doubled attempt := by
  have hfactor : factor attempt ≤ 2 ^ attempt.toNat := factor_eq attempt ▸ Nat.min_le_left _ _
  have hproduct := Nat.mul_le_mul_left policy.backoff.nanos hfactor
  rw [nanos_delay, doubled]
  omega

lemma delay_eq_doubled_of_lt {attempt : UInt32} (h : attempt.toNat < 32) :
    (policy.delay attempt).nanos = policy.doubled attempt := by
  rw [nanos_delay, doubled, factor, if_pos (lt_32_iff.mpr h), Nat.pow_eq]

/-- From retry 32 on the factor is short by one at least. -/
lemma delay_eq_doubled_iff_of_ge {attempt : UInt32} (h : ¬ attempt.toNat < 32) :
    (policy.delay attempt).nanos = policy.doubled attempt ↔ policy.backoff.nanos = 0 ∨
      policy.maxBackoff.nanos ≤ policy.backoff.nanos * (2 ^ 32 - 1) := by
  have hproduct := Nat.mul_le_mul_left policy.backoff.nanos (two_pow_ge_of_ge h)
  rw [nanos_delay, doubled, factor, if_neg (lt_32_iff.not.mpr h)]
  constructor
  · intro heq
    omega
  · rintro (hzero | hle)
    · simp [hzero]
    · omega

/-- **Pauses double for 32 retries.** Whatever the spans and the number of the retry are, the pause
is the first one times a power of two of at most 32 bits, up to the limit. That is the first one
doubled with every retry just when there were fewer than 32, there is no pause to double, or the
limit is reached within 32 bits; otherwise it is shorter. -/
theorem delay_doubles (policy : RetryPolicy) (attempt : UInt32) :
    (policy.delay attempt).nanos =
      min policy.maxBackoff.nanos
        (policy.backoff.nanos * min (2 ^ attempt.toNat) (2 ^ 32 - 1)) ∧
    ((policy.delay attempt).nanos = policy.doubled attempt ↔
      attempt.toNat < 32 ∨ policy.backoff.nanos = 0 ∨
        policy.maxBackoff.nanos ≤ policy.backoff.nanos * (2 ^ 32 - 1)) ∧
    (policy.delay attempt).nanos ≤ policy.doubled attempt := by
  refine ⟨?_, ?_, delay_le_doubled policy attempt⟩
  · rw [nanos_delay, factor_eq]
  · by_cases hlt : attempt.toNat < 32
    · exact iff_of_true (delay_eq_doubled_of_lt hlt) (.inl hlt)
    · rw [delay_eq_doubled_iff_of_ge hlt, or_iff_right hlt]

/-- A pause of a millisecond should have grown to 2^32 milliseconds by retry 32. -/
theorem delay_ne_doubled :
    let policy : RetryPolicy := ⟨40, .ofMillis 1, .ofMillis 10000000000⟩
    (policy.delay 32).nanos = 4294967295000000 ∧ policy.doubled 32 = 4294967296000000 ∧
      (policy.delay 32).nanos ≠ policy.doubled 32 := by
  decide

end RetryPolicy

end LintChain
