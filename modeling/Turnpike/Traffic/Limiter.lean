/-
  Rate limits, one bucket for each token.

  A bucket is made full when its token is first seen, and made anew when the token has not been seen
  for more than ten periods.  Only so many tokens are kept: one more pushes out the token whose last
  use is longest ago.

  A call is one instant.  The clock may be read three times in a call: before the slots are locked, to
  tell how long the token has not been seen; when a bucket is made; and when the bucket is refilled.
  Here all three readings are one time `now`, and the calls follow each other in the order in which
  they lock the slots.  Times are numbers of nanoseconds, and a bucket that is shown an earlier time
  than before takes it that no time has passed.
-/
import Turnpike.Traffic.Bucket

namespace Turnpike.Traffic

/-- The number of tokens kept unless another is asked for. -/
def usualCapacity : Nat := 65536

/-- The longest span of time that can be told, in nanoseconds. -/
def longestSpan : Nat := 0xffffffffffffffff * 1000000000 + 999999999

/-- A token with its bucket and the time of its last use. -/
structure Slot where
  token : String
  bucket : Bucket
  lastSeen : Nat
  deriving DecidableEq, Repr

/-- Buckets by token, the last used one first. -/
structure Limiter where
  rate : Rate
  burst : Nat
  capacity : Nat
  slots : List Slot
  deriving DecidableEq, Repr

namespace Limiter

/-- A limiter without tokens.  Burst and capacity are at least one. -/
def make (rate : Rate) (burst capacity : Nat) : Limiter :=
  ⟨rate, max burst 1, max capacity 1, []⟩

/-- The time without use after which a bucket is dropped. -/
def idleLimit (l : Limiter) : Nat := min (l.rate.period * 10) longestSpan

/-- The slot of a token. -/
def find? (l : Limiter) (token : String) : Option Slot := l.slots.find? (·.token == token)

/-- The slots of the other tokens. -/
def others (l : Limiter) (token : String) : List Slot := l.slots.filter (·.token != token)

/-- The bucket to charge at `now`, with the other slots that are kept: the token's own bucket if it
    is there and not stale, and otherwise a full one, for which the oldest slot may have to go. -/
def bucketFor (l : Limiter) (token : String) (now : Nat) : Bucket × List Slot :=
  match l.find? token with
  | some s =>
    if l.idleLimit < now - s.lastSeen then (.full l.rate l.burst now, l.others token)
    else (s.bucket, l.others token)
  | none => (.full l.rate l.burst now, (l.others token).take (l.capacity - 1))

/-- Charges an amount to a token at the instant `now`, which stands for every reading of the clock
    in the call.  The answer is that of its bucket. -/
def consume (l : Limiter) (token : String) (now amount : Nat) : Limiter × Result Nat :=
  let (bucket, rest) := l.bucketFor token now
  let (bucket, answer) := bucket.consume now amount
  ({ l with slots := ⟨token, bucket, now⟩ :: rest }, answer)

/-- The number of tokens kept. -/
def tracked (l : Limiter) : Nat := l.slots.length

end Limiter

end Turnpike.Traffic
