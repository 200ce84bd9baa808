/-
  How long a request has to wait.

  A request that finds too few tokens is told how long to wait.  The time should be enough for the
  tokens to come due, and no longer than that.  The first it always is, the second it is not.

  1. **What is told** (`consume_eq_wait`).  It is one refill period for each token that is missing,
     from the moment at which the request asks.

  2. **What is enough** (`consume_of_few_iff`).  The tokens come due from the last refill on.  So
     the time that has passed since then is told once too often (`elapsed`), and to wait so much
     less is enough.

  3. **Outcome** (`isLeast_wait`).  That is the least time to wait.  The difference is never as much
     as a refill period (`elapsed_lt`), and it is nothing when the request itself has brought a
     refill.  It is said of a request that nobody comes before, and that is not told the longest
     wait there is.
-/
import Mathlib.Order.Bounds.Basic
import Turnpike.Proofs.Traffic.Bucket

namespace Turnpike.Traffic.Bucket

variable {b : Bucket} {now later n w : Nat}

/-- The delays after which a request that has just been turned away would be granted, if nothing else
    is asked in between. -/
def delays (b : Bucket) (now n : Nat) : Set Nat :=
  {d | ((b.consume now n).1.consume (now + d) n).2 = .ok 0}

/-- The time at `now` that has passed since the last refill, when what was due has been added. -/
def elapsed (b : Bucket) (now : Nat) : Nat := now - (b.refill now).lastRefill

/-- When what was due has been added, no whole period is left. -/
theorem elapsed_lt (hperiod : 0 < b.refillPeriod) (now : Nat) :
    b.elapsed now < b.refillPeriod := by
  by_cases hdue : b.due now = 0
  · rw [elapsed, refill_of_due_eq_zero hdue]
    exact (Nat.div_eq_zero_iff_lt hperiod).mp hdue
  · rw [elapsed, refill_of_due_ne_zero hdue]
    show now - now < b.refillPeriod
    omega

/-- Who is told to wait is told so because tokens are missing. -/
theorem consume_eq_wait (hwait : (b.consume now n).2 = .ok w) (hpositive : 0 < w) :
    (b.refill now).tokens < n ∧ n ≤ b.capacity ∧
      w = min ((n - (b.refill now).tokens) * b.refillPeriod) longestWait ∧
      (b.consume now n).1 = b.refill now := by
  simp only [consume, capacity_refill, refillPeriod_refill] at hwait ⊢
  by_cases hmany : b.capacity < n
  · rw [if_pos hmany] at hwait
    cases hwait
  · rw [if_neg hmany] at hwait ⊢
    by_cases hfew : (b.refill now).tokens < n
    · rw [if_pos hfew] at hwait ⊢
      cases hwait
      exact ⟨hfew, Nat.le_of_not_lt hmany, rfl, rfl⟩
    · rw [if_neg hfew] at hwait
      cases hwait
      exact absurd hpositive (Nat.lt_irrefl 0)

/-- The missing tokens are due one period after the other, from the last refill on. -/
theorem consume_of_few_iff (h : b.Sound) (hfew : b.tokens < n) (hroom : n ≤ b.capacity) :
    (b.consume later n).2 = .ok 0 ↔
      (n - b.tokens) * b.refillPeriod ≤ later - b.lastRefill := by
  rw [consume_eq_ok_zero_iff h, tokens_refill h, ← Nat.le_div_iff_mul_le h.positive]
  show n ≤ min (b.tokens + b.due later) b.capacity ↔ n - b.tokens ≤ b.due later
  omega

/-- The least time that a request has to wait, for a bucket whose last refill is not yet to come.  A
    request that is told to wait, by less than the longest wait there is, is granted when it is made
    again after the time told without that elapsed since the last refill, and it is not granted
    earlier.  Less than a refill period has elapsed.  So the time told is the least one exactly when
    none has, that is, when the last refill is that of the request. -/
theorem isLeast_wait (hnow : b.lastRefill ≤ now) (hwait : (b.consume now n).2 = .ok w)
    (hpositive : 0 < w) (hshort : w < longestWait) :
    IsLeast (b.delays now n) (w - b.elapsed now) ∧
      b.elapsed now < min w b.refillPeriod ∧
      (IsLeast (b.delays now n) w ↔ (b.refill now).lastRefill = now) := by
  obtain ⟨hfew, hroom, htold, hafter⟩ := consume_eq_wait hwait hpositive
  have hw : w = (n - (b.refill now).tokens) * b.refillPeriod := by omega
  have hperiod : 0 < b.refillPeriod := by
    refine Nat.pos_of_ne_zero fun hzero => ?_
    rw [hw, hzero, Nat.mul_zero] at hpositive
    exact absurd hpositive (Nat.lt_irrefl 0)
  have hsound : (b.refill now).Sound :=
    ⟨by rw [refillPeriod_refill]; exact hperiod, by rw [capacity_refill]; omega⟩
  have hlast := lastRefill_refill_le hnow
  have helapsed := elapsed_lt hperiod now
  -- at least one token is missing, so that the time told is not less than a period
  have hlong : b.refillPeriod ≤ w := by
    rw [hw]
    exact Nat.le_mul_of_pos_left _ (by omega)
  -- to be granted later is that so many periods have passed since the last refill
  have hmem : ∀ d, d ∈ b.delays now n ↔ w ≤ now + d - (b.refill now).lastRefill := by
    intro d
    show ((b.consume now n).1.consume (now + d) n).2 = .ok 0 ↔ _
    rw [hafter, consume_of_few_iff hsound hfew (by rwa [capacity_refill]), refillPeriod_refill, ← hw]
  have hleast : IsLeast (b.delays now n) (w - b.elapsed now) := by
    unfold elapsed at helapsed ⊢
    constructor
    · rw [hmem]
      omega
    · intro d hd
      have hle := (hmem d).mp hd
      omega
  refine ⟨hleast, by omega, ?_⟩
  constructor
  · intro htoo
    have heq := htoo.unique hleast
    unfold elapsed at heq helapsed
    omega
  · intro heq
    have hnone : b.elapsed now = 0 := by
      rw [elapsed, heq, Nat.sub_self]
    rwa [hnone, Nat.sub_zero] at hleast

/-- One token in ten nanoseconds, and one at most, which has been taken at the start. -/
def spent : Bucket := (full ⟨1, 10⟩ 1 0).run [(0, .consume 1)]

/-- At five a request is told to wait ten, and five are enough. -/
theorem isLeast_wait_halfway :
    spent.lastRefill ≤ 5 ∧ (spent.consume 5 1).2 = .ok 10 ∧ 0 < 10 ∧ 10 < longestWait ∧
      IsLeast (spent.delays 5 1) 5 := by
  have hnow : spent.lastRefill ≤ 5 := by decide
  have hwait : (spent.consume 5 1).2 = .ok 10 := by decide
  have hleast := (isLeast_wait hnow hwait (by decide) (by decide)).1
  exact ⟨hnow, hwait, by decide, by decide, hleast⟩

/-- The time told is not always the least. -/
theorem wait_exceeds_least :
    ¬ ∀ now n w, spent.lastRefill ≤ now → (spent.consume now n).2 = .ok w → 0 < w →
      w < longestWait → IsLeast (spent.delays now n) w := by
  intro h
  have hleast := h 5 1 10 (by decide) (by decide) (by decide) (by decide)
  have hfive : 5 ∈ spent.delays 5 1 := by
    show ((spent.consume 5 1).1.consume (5 + 5) 1).2 = .ok 0
    decide
  exact absurd (hleast.2 hfive) (by decide)

end Turnpike.Traffic.Bucket
