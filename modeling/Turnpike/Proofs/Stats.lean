/-
  Counters by what they count.

  Servers and frontends count their round trips: how many there were, how many of each class, and
  how long they took.  A counter is told of one round trip at a time and adds to what it has, so
  that its meaning is in the whole series of them.

  1. **Specification** (`Stats.ofRoundTrips`).  Counters that started at zero and were told of some
     round trips hold what a census of these says: their number, the numbers of those of each class,
     and the sum of their whole microseconds.  A class is told by the hundreds of the status, and
     not by the order in which the code compares ranges (`count_status` shows these to be the same).

  2. **Words.**  Counters are words of 64 bits.  The census is taken in natural numbers and put into
     a word last, and since sums may be taken before or after that, every equation holds without a
     bound on the number of round trips; a number that is too great for a word starts over.

  3. **The step** (`ofRoundTrips_snoc`).  To record one more round trip is to take the census with
     it.  Histories of pools and frontends are inductions over this step, by which what a counter
     shows at any moment is what has been recorded until then.

  4. **Classes** (`counter_record`).  Said of a single step: the number of round trips grows by one,
     and the counter of one class does, that of the outcome.
-/
import Mathlib.Algebra.GroupWithZero.Nat
import Turnpike.Stats

namespace Turnpike

/-- How a round trip ended, and the nanoseconds that it took. -/
abbrev RoundTrip := Outcome × Nat

/-- The hundreds of the status, if there is one. -/
def Outcome.hundreds? : Outcome → Option Nat
  | .status code => some (code / 100)
  | .networkError => none

/-- Neither a redirection nor an error. -/
def Outcome.succeeds (o : Outcome) : Bool := o.hundreds?.any fun h => h != 3 && h != 4 && h != 5

namespace Stats

/-- The number of round trips that ended so. -/
def countOf (p : Outcome → Bool) (ts : List RoundTrip) : UInt64 := .ofNat (ts.countP (p ·.1))

/-- The whole microseconds that all round trips took, of each as many as a word can hold. -/
def microsIn (ts : List RoundTrip) : UInt64 :=
  .ofNat (ts.map fun t => min (t.2 / 1000) 0xffffffffffffffff).sum

/-- The counters of some round trips. -/
def ofRoundTrips (ts : List RoundTrip) : Stats where
  requests := .ofNat ts.length
  networkErrors := countOf (·.hundreds? == none) ts
  status2xx := countOf Outcome.succeeds ts
  status3xx := countOf (·.hundreds? == some 3) ts
  status4xx := countOf (·.hundreds? == some 4) ts
  status5xx := countOf (·.hundreds? == some 5) ts
  latencyMicros := microsIn ts

/-- One more round trip counts in the classes that it belongs to. -/
theorem countOf_snoc (p : Outcome → Bool) (ts : List RoundTrip) (t : RoundTrip) :
    countOf p (ts ++ [t]) = if p t.1 then countOf p ts + 1 else countOf p ts := by
  unfold countOf
  -- the number is put into a word last, and a word adds as numbers do
  rw [List.countP_append, List.countP_singleton]
  split
  case isTrue => rw [UInt64.ofNat_add, UInt64.ofNat_one]
  case isFalse => rfl

theorem microsIn_snoc (ts : List RoundTrip) (t : RoundTrip) :
    microsIn (ts ++ [t]) = microsIn ts + microsOf t.2 := by
  unfold microsIn microsOf
  rw [List.map_append, List.sum_append, List.map_singleton, List.sum_singleton, UInt64.ofNat_add]

/-- A class of statuses is a range of hundreds. -/
theorem count_status (s : Stats) (code : Nat) :
    s.count (.status code) =
      if code / 100 = 5 then { s with status5xx := s.status5xx + 1 }
      else if code / 100 = 4 then { s with status4xx := s.status4xx + 1 }
      else if code / 100 = 3 then { s with status3xx := s.status3xx + 1 }
      else { s with status2xx := s.status2xx + 1 } := by
  -- the bounds of a class are hundreds in a row
  have h5 : (500 ≤ code ∧ code < 600) = (code / 100 = 5) := propext (by omega)
  have h4 : (400 ≤ code ∧ code < 500) = (code / 100 = 4) := propext (by omega)
  have h3 : (300 ≤ code ∧ code < 400) = (code / 100 = 3) := propext (by omega)
  simp only [count, h5, h4, h3]

/-- To record one more round trip is to count it with the others. -/
theorem ofRoundTrips_snoc (ts : List RoundTrip) (o : Outcome) (nanos : Nat) :
    ofRoundTrips (ts ++ [(o, nanos)]) = (ofRoundTrips ts).record o nanos := by
  have hlength : UInt64.ofNat (ts ++ [(o, nanos)]).length = .ofNat ts.length + 1 := by
    rw [List.length_append, List.length_singleton, UInt64.ofNat_add, UInt64.ofNat_one]
  unfold ofRoundTrips record
  rw [hlength, microsIn_snoc]
  simp only [countOf_snoc]
  -- the outcome decides which of the counters goes up
  cases o with
  | networkError => simp [count, Outcome.hundreds?, Outcome.succeeds]
  | status code =>
    simp only [count_status, Outcome.hundreds?, Outcome.succeeds]
    -- in the order in which the code asks
    by_cases hfive : code / 100 = 5
    · simp [hfive]
    · by_cases hfour : code / 100 = 4
      · simp [hfour]
      · by_cases hthree : code / 100 = 3
        · simp [hthree]
        · simp [hfive, hfour, hthree]

/-! ## Classes -/

/-- The classes that outcomes are counted in. -/
inductive Class where
  | success
  | redirection
  | clientError
  | serverError
  | networkError
  deriving DecidableEq, Repr

/-- The counter of a class. -/
def counter (s : Stats) : Class → UInt64
  | .success => s.status2xx
  | .redirection => s.status3xx
  | .clientError => s.status4xx
  | .serverError => s.status5xx
  | .networkError => s.networkErrors

/-- The class of an outcome. -/
def classOf : Outcome → Class
  | .networkError => .networkError
  | .status code =>
    if code / 100 = 5 then .serverError
    else if code / 100 = 4 then .clientError
    else if code / 100 = 3 then .redirection
    else .success

/-- A round trip is counted once, and in one class. -/
theorem counter_record (s : Stats) (o : Outcome) (nanos : Nat) :
    (s.record o nanos).requests = s.requests + 1 ∧
      ∀ c, (s.record o nanos).counter c = s.counter c + if c = classOf o then 1 else 0 := by
  refine ⟨rfl, fun c => ?_⟩
  cases o with
  | networkError => cases c <;> simp [counter, classOf, record, count]
  | status code =>
    simp only [record, count_status, classOf]
    -- a status of each class, and one of none
    by_cases hfive : code / 100 = 5
    · cases c <;> simp [counter, hfive]
    · by_cases hfour : code / 100 = 4
      · cases c <;> simp [counter, hfour]
      · by_cases hthree : code / 100 = 3
        · cases c <;> simp [counter, hthree]
        · cases c <;> simp [counter, hthree, hfour, hfive]

end Stats

end Turnpike
