/-
  Token buckets.

  A rate is a number of tokens per period; time is counted in nanoseconds.  A bucket starts full.
  When it is looked at, the tokens due since the last refill are added, up to its capacity, and the
  moment is noted as that of a refill — but only if at least one whole token was due, so that
  looking often does not lose the progress made towards the next token.
-/
import Turnpike.Error

namespace Turnpike.Traffic

/-- The greatest number of nanoseconds that a wait can tell. -/
def longestWait : Nat := 0xffffffffffffffff

/-- So many tokens in every period. -/
structure Rate where
  units : Nat
  period : Nat
  deriving DecidableEq, Repr

/-- The rate of these figures, neither of which may be zero. -/
def Rate.make (units period : Nat) : Result Rate :=
  if units = 0 then .error (.invalid "rate units must be positive")
  else if period = 0 then .error (.invalid "rate period must be positive")
  else .ok ⟨units, period⟩

/-- The time in which one token comes due: at least one nanosecond. -/
def Rate.refillPeriod (r : Rate) : Nat := min (max (r.period / r.units) 1) longestWait

/-- A bucket with the tokens left in it and the time of its last refill. -/
structure Bucket where
  refillPeriod : Nat
  capacity : Nat
  tokens : Nat
  lastRefill : Nat
  deriving DecidableEq, Repr

namespace Bucket

/-- A full bucket. -/
def full (rate : Rate) (capacity now : Nat) : Bucket :=
  ⟨rate.refillPeriod, capacity, capacity, now⟩

/-- The bucket after the tokens due at `now` have been added. -/
def refill (b : Bucket) (now : Nat) : Bucket :=
  let due := (now - b.lastRefill) / b.refillPeriod
  if due = 0 then b
  else { b with tokens := min (b.tokens + due) b.capacity, lastRefill := now }

/-- Takes `n` tokens if they are there.  The answer is zero when they were taken, and otherwise the
    time after which they are due; more tokens than the bucket holds are never due. -/
def consume (b : Bucket) (now n : Nat) : Bucket × Result Nat :=
  let b := b.refill now
  if b.capacity < n then (b, .error (.tokensExceedBurst n b.capacity))
  else if b.tokens < n then (b, .ok (min ((n - b.tokens) * b.refillPeriod) longestWait))
  else ({ b with tokens := b.tokens - n }, .ok 0)

/-- The tokens in the bucket at `now`. -/
def available (b : Bucket) (now : Nat) : Bucket × Nat :=
  let b := b.refill now
  (b, b.tokens)

end Bucket

end Turnpike.Traffic
