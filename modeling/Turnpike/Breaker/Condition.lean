/-
  Trip conditions — when a circuit breaker opens.

  A condition is a disjunction of conjunctions of comparisons, each of a metric of the round trips
  seen so far with a number.  Equality of floating-point values allows for one unit in the last
  place of one.
-/
import Turnpike.Stats
import Turnpike.Number.Shortest

namespace Turnpike.Breaker

open Turnpike.Number

/-- A figure computed from counters.  The bounds of a ratio of response codes are hundreds, the
    upper ones not included. -/
inductive Metric where
  | networkErrorRatio
  | failureRatio
  | responseCodeRatio (fromA toA fromB toB : Nat)
  | meanLatency
  | requestCount
  deriving DecidableEq, Repr

/-- The responses whose class is that hundred. -/
def ofClass (s : Stats) : Nat → UInt64
  | 2 => s.status2xx
  | 3 => s.status3xx
  | 4 => s.status4xx
  | 5 => s.status5xx
  | _ => 0

/-- The responses from one hundred up to, and without, another. -/
def codesIn (s : Stats) (lo hi : Nat) : UInt64 :=
  ((List.range (hi / 100 - lo / 100)).map fun i => ofClass s (lo / 100 + i)).foldr (· + ·) 0

/-- The value of a metric. -/
def Metric.value (s : Stats) : Metric → Float
  | networkErrorRatio => Stats.ratio s.networkErrors s.requests
  | failureRatio => s.failureRate
  | responseCodeRatio fromA toA fromB toB =>
    Stats.ratio (codesIn s fromA toA) (codesIn s fromB toB)
  | meanLatency => s.meanMillis
  | requestCount => s.requests.toFloat

/-- A comparison operator. -/
inductive Operator where
  | gt | ge | lt | le | eq | ne
  deriving DecidableEq, Repr

/-- The distance from one to the next greater floating-point value. -/
def unitInLastPlace : Float := Float.ofBits 0x3cb0000000000000

/-- Does the comparison hold? -/
def Operator.holds (left right : Float) : Operator → Bool
  | gt => left > right
  | ge => left ≥ right
  | lt => left < right
  | le => left ≤ right
  | eq => (left - right).abs < unitInLastPlace
  | ne => (left - right).abs ≥ unitInLastPlace

/-- A comparison of a metric with a floating-point value, given by its bits. -/
structure Comparison where
  metric : Metric
  operator : Operator
  threshold : Nat
  deriving DecidableEq, Repr

/-- Does the comparison hold of these counters? -/
def Comparison.holds (s : Stats) (c : Comparison) : Bool :=
  c.operator.holds (c.metric.value s) (Float.ofBits (UInt64.ofNat c.threshold))

/-- A condition with the text that stated it. -/
structure Condition where
  source : String
  anyOf : List (List Comparison)
  deriving DecidableEq, Repr

/-- Does the condition hold of these counters? -/
def Condition.holds (s : Stats) (c : Condition) : Bool := c.anyOf.any (·.all (·.holds s))

end Turnpike.Breaker
