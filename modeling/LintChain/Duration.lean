/-!
Spans of time in whole nanoseconds. A span has 64 bits of seconds, so there is a longest one, and
arithmetic that would pass it stops there.
-/

namespace LintChain

/-- The longest span: 2^64 - 1 seconds and 999999999 nanoseconds. -/
def Duration.limit : Nat := 18446744073709551615 * 1000000000 + 999999999

structure Duration where
  nanos : Nat
  nanos_le : nanos ≤ Duration.limit
  deriving DecidableEq

namespace Duration

def ofNanos (n : Nat) : Duration := ⟨min n limit, Nat.min_le_right _ _⟩

def ofMillis (n : Nat) : Duration := ofNanos (n * 1000000)

def ofSeconds (n : Nat) : Duration := ofNanos (n * 1000000000)

/-- Whole seconds, the rest cut off. -/
def seconds (d : Duration) : Nat := d.nanos / 1000000000

/-- `k` times as long, or the longest span. -/
def scale (d : Duration) (k : Nat) : Duration := ofNanos (d.nanos * k)

instance : LE Duration := ⟨fun a b => a.nanos ≤ b.nanos⟩

instance (a b : Duration) : Decidable (a ≤ b) := inferInstanceAs (Decidable (a.nanos ≤ b.nanos))

instance : Min Duration := ⟨fun a b => if a ≤ b then a else b⟩

instance : Inhabited Duration := ⟨ofNanos 0⟩

@[ext] theorem ext {a b : Duration} (h : a.nanos = b.nanos) : a = b := by
  cases a; cases b; simp_all

@[simp] theorem nanos_ofNanos (n : Nat) : (ofNanos n).nanos = min n limit := rfl

@[simp] theorem nanos_scale (d : Duration) (k : Nat) :
    (d.scale k).nanos = min (d.nanos * k) limit := rfl

theorem nanos_min (a b : Duration) : (min a b).nanos = min a.nanos b.nanos := by
  show (if a.nanos ≤ b.nanos then a else b).nanos = _
  split <;> omega

end Duration

end LintChain
