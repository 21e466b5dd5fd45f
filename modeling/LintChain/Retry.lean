import LintChain.Duration

/-!
The retry schedule of tools that fetch parts of themselves: delays double from the first one and
stop growing at a limit.
-/

namespace LintChain

structure RetryPolicy where
  /-- Attempts after the first one. -/
  retries : UInt32
  backoff : Duration
  maxBackoff : Duration
  deriving DecidableEq

namespace RetryPolicy

def default : RetryPolicy := ⟨3, .ofMillis 500, .ofSeconds 8⟩

/-- `2 ^ attempt` in 32 bits, or the largest 32-bit number. -/
def factor (attempt : UInt32) : Nat :=
  if attempt < 32 then Nat.pow 2 attempt.toNat else 4294967295

/-- The pause before retry number `attempt`, counted from 0. -/
def delay (policy : RetryPolicy) (attempt : UInt32) : Duration :=
  min (policy.backoff.scale (factor attempt)) policy.maxBackoff

end RetryPolicy

end LintChain
