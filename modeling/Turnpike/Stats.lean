/-
  Round trips — how they end, and the counters that sum them up.

  A round trip ends with a status code or with no response at all.  Counters are words of 64 bits:
  the number of round trips, one counter for each class of outcome, and the sum of latencies in
  microseconds.  Every outcome falls into exactly one class; a status that is neither a
  redirection nor an error counts as a success.
-/

namespace Turnpike

/-- How a round trip ended. -/
inductive Outcome where
  | status (code : Nat)
  | networkError
  deriving DecidableEq, Repr

/-- The counters of a frontend, a server or a breaker. -/
structure Stats where
  requests : UInt64 := 0
  networkErrors : UInt64 := 0
  status2xx : UInt64 := 0
  status3xx : UInt64 := 0
  status4xx : UInt64 := 0
  status5xx : UInt64 := 0
  latencyMicros : UInt64 := 0
  deriving DecidableEq, Repr, Inhabited

namespace Stats

/-- A number of nanoseconds in whole microseconds, at most the greatest word. -/
def microsOf (nanos : Nat) : UInt64 := UInt64.ofNat (min (nanos / 1000) 0xffffffffffffffff)

/-- Counts the outcome in its class. -/
def count (s : Stats) : Outcome → Stats
  | .networkError => { s with networkErrors := s.networkErrors + 1 }
  | .status code =>
    if 500 ≤ code ∧ code < 600 then { s with status5xx := s.status5xx + 1 }
    else if 400 ≤ code ∧ code < 500 then { s with status4xx := s.status4xx + 1 }
    else if 300 ≤ code ∧ code < 400 then { s with status3xx := s.status3xx + 1 }
    else { s with status2xx := s.status2xx + 1 }

/-- The counters after one more round trip, which took that many nanoseconds. -/
def record (s : Stats) (outcome : Outcome) (nanos : Nat) : Stats :=
  { s.count outcome with
    requests := s.requests + 1
    latencyMicros := s.latencyMicros + microsOf nanos }

/-- The sum of two sets of counters. -/
def merge (a b : Stats) : Stats where
  requests := a.requests + b.requests
  networkErrors := a.networkErrors + b.networkErrors
  status2xx := a.status2xx + b.status2xx
  status3xx := a.status3xx + b.status3xx
  status4xx := a.status4xx + b.status4xx
  status5xx := a.status5xx + b.status5xx
  latencyMicros := a.latencyMicros + b.latencyMicros

/-- The round trips that failed: server errors and network errors. -/
def failures (s : Stats) : UInt64 := s.status5xx + s.networkErrors

/-- One count as a share of another; nothing as a share of nothing is zero. -/
def ratio (part total : UInt64) : Float :=
  if total = 0 then 0.0 else part.toFloat / total.toFloat

/-- The share of round trips that failed. -/
def failureRate (s : Stats) : Float := ratio s.failures s.requests

/-- The mean latency in whole microseconds. -/
def meanMicros (s : Stats) : UInt64 :=
  if s.requests = 0 then 0 else s.latencyMicros / s.requests

/-- The mean latency in milliseconds, by way of seconds. -/
def meanMillis (s : Stats) : Float :=
  let m := s.meanMicros
  ((m / 1000000).toFloat + ((m % 1000000) * 1000).toFloat / 1000000000.0) * 1000.0

/-- Does `a` rank before `b` or level with it?  Worse comes first: the higher failure rate, then the
    higher mean latency, then the greater number of round trips. -/
def notBetter (a b : Stats) : Bool :=
  if a.failureRate > b.failureRate then true
  else if a.failureRate < b.failureRate then false
  else if a.meanMicros > b.meanMicros then true
  else if a.meanMicros < b.meanMicros then false
  else b.requests ≤ a.requests

/-- The items from the worst to the best; level ones keep their order. -/
def rank {α : Type} (items : List (α × Stats)) : List (α × Stats) :=
  items.mergeSort fun a b => notBetter a.2 b.2

end Stats

end Turnpike
