/-
  What a bucket hands out over time.

  A bucket is to keep those who are charged to a rate.  It hands tokens out at once as long as there
  are any, so in a short time it can hand out more than the rate allows, and the question is how
  much more.  It is called at times that do not go back: it is asked for tokens, or looked at.

  1. **Credit** (`credit`).  The credit of a bucket at a later time is what it can have handed out
     by then: the tokens in it, and those that come due.  It is counted from the last refill, so it
     does not matter when the tokens that are due are added.

  2. **One call.**  A call hands out no more than the credit that it costs (`granted_add_credit`),
     and to add the tokens that are due is no gain (`credit_refill_le_credit`).  It may be a loss:
     time that had passed towards the next token is forgotten, and what would be over the capacity
     is not added.

  3. **Many calls** (`grantedWithin_le_credit`).  So all that is handed out from some call on is
     bounded by the credit at that call, by induction on the calls that follow.

  4. **A window** (`granted_rate`).  At the first call of a window the credit is at most that of a
     full bucket, what comes due from then on, and one token more, on which the time before may
     already have counted (`credit_refill_le`).  That token cannot be spared: there are calls for
     which the bound is what is handed out (`granted_rate_tight`).
-/
import Mathlib.Algebra.BigOperators.Group.List.Basic
import Mathlib.Algebra.GroupWithZero.Nat
import Turnpike.Traffic.Bucket

namespace Turnpike.Traffic.Bucket

/-! ## Calls -/

/-- What a bucket is asked: for tokens, or how many there are. -/
inductive Call where
  | consume (n : Nat)
  | available
  deriving DecidableEq

/-- The bucket after a call. -/
def after (b : Bucket) (now : Nat) : Call → Bucket
  | .consume n => (b.consume now n).1
  | .available => (b.available now).1

/-- The tokens that a call hands out: those asked for, when the answer is not to wait. -/
def granted (b : Bucket) (now : Nat) : Call → Nat
  | .consume n =>
    match (b.consume now n).2 with
    | .ok 0 => n
    | _ => 0
  | .available => 0

/-- Calls with their times. -/
abbrev Calls := List (Nat × Call)

/-- The bucket after some calls. -/
def run (b : Bucket) (cs : Calls) : Bucket := cs.foldl (fun b c => b.after c.1 c.2) b

/-- What each of the calls hands out, with its time. -/
def grants (b : Bucket) : Calls → List (Nat × Nat)
  | [] => []
  | c :: cs => (c.1, b.granted c.1 c.2) :: (b.after c.1 c.2).grants cs

/-- The tokens handed out from the time `a` to the time `z`. -/
def grantedWithin (b : Bucket) (cs : Calls) (a z : Nat) : Nat :=
  (((b.grants cs).filter fun g => decide (a ≤ g.1 ∧ g.1 ≤ z)).map (·.2)).sum

/-- What the bucket can have handed out by the time `z`. -/
def credit (b : Bucket) (z : Nat) : Nat := b.tokens + (z - b.lastRefill) / b.refillPeriod

/-- The tokens that have come due at `now` since the last refill. -/
def due (b : Bucket) (now : Nat) : Nat := (now - b.lastRefill) / b.refillPeriod

/-- Tokens take some time to come due, and there are never too many. -/
structure Sound (b : Bucket) : Prop where
  positive : 0 < b.refillPeriod
  tokens_le : b.tokens ≤ b.capacity

variable {b : Bucket} {now a z n : Nat}

/-! ## The tokens that are due -/

/-- When no token is due, nothing happens. -/
theorem refill_of_due_eq_zero (h : b.due now = 0) : b.refill now = b := by
  unfold due at h
  simp only [refill]
  rw [if_pos h]

/-- Otherwise the tokens that are due are added, and the last refill is now. -/
theorem refill_of_due_ne_zero (h : b.due now ≠ 0) :
    b.refill now =
      { b with tokens := min (b.tokens + b.due now) b.capacity, lastRefill := now } := by
  unfold due at h ⊢
  simp only [refill]
  rw [if_neg h]

/-- Tokens are due only some time after the last refill. -/
theorem lastRefill_lt_of_due (h : b.due now ≠ 0) : b.lastRefill < now := by
  by_contra hle
  have hzero : now - b.lastRefill = 0 := by omega
  rw [due, hzero, Nat.zero_div] at h
  exact h rfl

/-- A refill is not later than now. -/
theorem lastRefill_refill_le (h : b.lastRefill ≤ now) : (b.refill now).lastRefill ≤ now := by
  by_cases hdue : b.due now = 0
  · rw [refill_of_due_eq_zero hdue]
    exact h
  · exact Nat.le_of_eq (congrArg lastRefill (refill_of_due_ne_zero hdue))

/-- A refill does not change the period. -/
theorem refillPeriod_refill (b : Bucket) (now : Nat) :
    (b.refill now).refillPeriod = b.refillPeriod := by
  simp only [refill]
  split
  · rfl
  · rfl

/-- Nor does it change the capacity. -/
theorem capacity_refill (b : Bucket) (now : Nat) : (b.refill now).capacity = b.capacity := by
  simp only [refill]
  split
  · rfl
  · rfl

/-- A refill leaves a bucket sound. -/
theorem Sound.refill (h : b.Sound) (now : Nat) : (b.refill now).Sound := by
  refine ⟨by rw [refillPeriod_refill]; exact h.positive, ?_⟩
  rw [capacity_refill]
  simp only [Bucket.refill]
  split
  case isTrue => exact h.tokens_le
  case isFalse => exact Nat.min_le_right _ _

/-- The tokens after a refill, whether or not any were due. -/
theorem tokens_refill (h : b.Sound) (now : Nat) :
    (b.refill now).tokens = min (b.tokens + b.due now) b.capacity := by
  have htokens := h.tokens_le
  by_cases hdue : b.due now = 0
  · rw [refill_of_due_eq_zero hdue, hdue]
    omega
  · rw [refill_of_due_ne_zero hdue]

/-- To add the tokens that are due is no gain. -/
theorem credit_refill_le_credit (h : now ≤ z) : (b.refill now).credit z ≤ b.credit z := by
  simp only [refill]
  split
  case isTrue => exact Nat.le_refl _
  case isFalse hdue =>
    have hlt : b.lastRefill < now := by
      by_contra hle
      rw [Nat.sub_eq_zero_of_le (Nat.le_of_not_lt hle), Nat.zero_div] at hdue
      exact hdue rfl
    -- what is due now and what comes due from now on is not more than what comes due in all
    have hsplit : z - b.lastRefill = (now - b.lastRefill) + (z - now) := by omega
    have hdiv : (now - b.lastRefill) / b.refillPeriod + (z - now) / b.refillPeriod ≤
        (now - b.lastRefill + (z - now)) / b.refillPeriod := Nat.div_add_div_le_add_div
    rw [← hsplit] at hdiv
    simp only [credit]
    omega

/-- A bucket that has been called can hand out what it holds, what comes due from then on, and one
    token for the time that had passed without one coming due. -/
theorem credit_refill_le (h : b.Sound) (now z : Nat) :
    (b.refill now).credit z ≤ b.capacity + 1 + (z - now) / b.refillPeriod := by
  have htokens := h.tokens_le
  simp only [refill]
  split
  case isTrue hdue =>
    -- less than a period has passed, which may bring one token
    have hlt : now - b.lastRefill < b.refillPeriod := (Nat.div_eq_zero_iff_lt h.positive).mp hdue
    have hle : z - b.lastRefill ≤ z - now + b.refillPeriod := by omega
    have hdiv := Nat.div_le_div_right (c := b.refillPeriod) hle
    rw [Nat.add_div_right _ h.positive] at hdiv
    simp only [credit]
    omega
  case isFalse =>
    simp only [credit]
    omega

/-! ## What a call does -/

/-- A request that has to wait, or to go without, takes nothing. -/
theorem consume_cases (h : b.Sound) (now n : Nat) :
    ((b.consume now n).2 = .ok 0 ∧ n ≤ (b.refill now).tokens ∧
      (b.consume now n).1 = { b.refill now with tokens := (b.refill now).tokens - n }) ∨
    ((∃ w, 0 < w ∧ (b.consume now n).2 = .ok w) ∨ ∃ e, (b.consume now n).2 = .error e) ∧
      (b.consume now n).1 = b.refill now := by
  have hpositive := (h.refill now).positive
  simp only [consume]
  split
  case isTrue => exact .inr ⟨.inr ⟨_, rfl⟩, rfl⟩
  case isFalse =>
    split
    case isTrue hfew =>
      refine .inr ⟨.inl ⟨_, ?_, rfl⟩, rfl⟩
      have hmissing : 0 < n - (b.refill now).tokens := by omega
      exact Nat.lt_min.mpr ⟨Nat.mul_pos hmissing hpositive, by decide⟩
    case isFalse hmany => exact .inl ⟨rfl, Nat.le_of_not_lt hmany, rfl⟩

/-- A request is granted when its tokens are there. -/
theorem consume_eq_ok_zero_iff (h : b.Sound) :
    (b.consume now n).2 = .ok 0 ↔ n ≤ (b.refill now).tokens := by
  constructor
  · intro hzero
    obtain ⟨-, hle, -⟩ | ⟨⟨w, hw, hwait⟩ | ⟨e, herror⟩, -⟩ := consume_cases h now n
    · exact hle
    · rw [hwait] at hzero
      cases hzero
      exact absurd hw (Nat.lt_irrefl 0)
    · rw [herror] at hzero
      cases hzero
  · intro hle
    have hcapacity := (h.refill now).tokens_le
    simp only [consume]
    rw [if_neg (by omega), if_neg (by omega)]

/-- A call adds the tokens that are due and takes those that it hands out. -/
theorem after_eq (h : b.Sound) (now : Nat) (c : Call) :
    b.granted now c ≤ (b.refill now).tokens ∧
      b.after now c = { b.refill now with tokens := (b.refill now).tokens - b.granted now c } := by
  cases c with
  | available => exact ⟨Nat.zero_le _, rfl⟩
  | consume n =>
    simp only [granted, after]
    obtain ⟨hzero, hle, hb⟩ | ⟨⟨w, hw, hwait⟩ | ⟨e, herror⟩, hb⟩ := consume_cases h now n
    · rw [hzero, hb]
      exact ⟨hle, rfl⟩
    · rw [hwait, hb]
      obtain ⟨w, rfl⟩ := Nat.exists_eq_add_of_lt hw
      exact ⟨Nat.zero_le _, rfl⟩
    · rw [herror, hb]
      exact ⟨Nat.zero_le _, rfl⟩

theorem refillPeriod_after (h : b.Sound) (now : Nat) (c : Call) :
    (b.after now c).refillPeriod = b.refillPeriod := by
  rw [(after_eq h now c).2]
  exact refillPeriod_refill b now

theorem capacity_after (h : b.Sound) (now : Nat) (c : Call) :
    (b.after now c).capacity = b.capacity := by
  rw [(after_eq h now c).2]
  exact capacity_refill b now

theorem Sound.after (h : b.Sound) (now : Nat) (c : Call) : (b.after now c).Sound := by
  rw [(after_eq h now c).2]
  exact ⟨(h.refill now).positive, Nat.le_trans (Nat.sub_le _ _) (h.refill now).tokens_le⟩

/-- What a call hands out is paid for with credit. -/
theorem granted_add_credit (h : b.Sound) (now z : Nat) (c : Call) :
    b.granted now c + (b.after now c).credit z = (b.refill now).credit z := by
  obtain ⟨hle, hafter⟩ := after_eq h now c
  rw [hafter]
  simp only [credit]
  omega

/-! ## What calls do -/

theorem Sound.full (rate : Rate) (capacity start : Nat) : (full rate capacity start).Sound := by
  refine ⟨?_, Nat.le_refl _⟩
  show 0 < min (max (rate.period / rate.units) 1) longestWait
  exact Nat.lt_min.mpr ⟨Nat.lt_of_lt_of_le Nat.one_pos (Nat.le_max_right _ _), by decide⟩

/-- Calls keep a bucket sound, with the capacity that it has. -/
theorem Sound.run (h : b.Sound) (cs : Calls) :
    (b.run cs).Sound ∧ (b.run cs).capacity = b.capacity := by
  induction cs generalizing b with
  | nil => exact ⟨h, rfl⟩
  | cons c cs ih =>
    obtain ⟨hsound, hcapacity⟩ := ih (h.after c.1 c.2)
    exact ⟨hsound, hcapacity.trans (capacity_after h c.1 c.2)⟩

/-- What the first call hands out counts if it falls into the window. -/
theorem grantedWithin_cons (b : Bucket) (c : Nat × Call) (cs : Calls) (a z : Nat) :
    b.grantedWithin (c :: cs) a z =
      (if a ≤ c.1 ∧ c.1 ≤ z then b.granted c.1 c.2 else 0) +
        (b.after c.1 c.2).grantedWithin cs a z := by
  unfold grantedWithin
  rw [grants, List.filter_cons]
  by_cases hin : a ≤ c.1 ∧ c.1 ≤ z
  · simp [hin]
  · simp [hin]

/-- Calls after the window do not count. -/
theorem grantedWithin_of_late (cs : Calls) (h : ∀ c ∈ cs, z < c.1) : b.grantedWithin cs a z = 0 := by
  induction cs generalizing b with
  | nil => rfl
  | cons c cs ih =>
    have hlate : z < c.1 := h c List.mem_cons_self
    rw [grantedWithin_cons, ih fun d hd => h d (List.mem_cons_of_mem c hd),
      if_neg (by omega)]

/-- All that is handed out up to some time was to be had by then. -/
theorem grantedWithin_le_credit (h : b.Sound) {cs : Calls}
    (hordered : cs.Pairwise fun c d => c.1 ≤ d.1) : b.grantedWithin cs a z ≤ b.credit z := by
  induction cs generalizing b with
  | nil => exact Nat.zero_le _
  | cons c cs ih =>
    obtain ⟨hfirst, hordered⟩ := List.pairwise_cons.mp hordered
    rcases Nat.lt_or_ge z c.1 with hlate | hle
    · rw [grantedWithin_of_late]
      · exact Nat.zero_le _
      · exact List.forall_mem_cons.mpr ⟨hlate, fun d hd => Nat.lt_of_lt_of_le hlate (hfirst d hd)⟩
    · have hrest := ih (h.after c.1 c.2) hordered
      have hpaid := granted_add_credit h c.1 z c.2
      have hrefill := credit_refill_le_credit (b := b) hle
      rw [grantedWithin_cons]
      split
      · omega
      · omega

/-- From the first call of a window on, what is handed out is bounded by the credit at that call. -/
theorem grantedWithin_le (h : b.Sound) {cs : Calls} (hordered : cs.Pairwise fun c d => c.1 ≤ d.1)
    (a z : Nat) : b.grantedWithin cs a z ≤ b.capacity + 1 + (z - a) / b.refillPeriod := by
  induction cs generalizing b with
  | nil => exact Nat.zero_le _
  | cons c cs ih =>
    obtain ⟨hfirst, hordered⟩ := List.pairwise_cons.mp hordered
    rcases Nat.lt_or_ge c.1 a with hearly | hle
    · -- the window has not begun
      have hrest := ih (h.after c.1 c.2) hordered
      rw [capacity_after h, refillPeriod_after h] at hrest
      rw [grantedWithin_cons, if_neg (by omega), Nat.zero_add]
      exact hrest
    · have hrest : (b.after c.1 c.2).grantedWithin cs a z ≤ (b.after c.1 c.2).credit z :=
        grantedWithin_le_credit (h.after c.1 c.2) hordered
      have hpaid := granted_add_credit h c.1 z c.2
      have hcredit := credit_refill_le h c.1 z
      have hdiv : (z - c.1) / b.refillPeriod ≤ (z - a) / b.refillPeriod :=
        Nat.div_le_div_right (by omega)
      rw [grantedWithin_cons]
      split
      · omega
      · omega

/-- However a bucket that was full at first is called, at times that do not go back: from one time to
    another it hands out its capacity at most, one token more, and one for every refill period in
    between.  It never holds more than its capacity.  A request is granted when the answer is not to
    wait, and then its tokens were there and are taken; one that is to wait or meets an error takes
    nothing. -/
theorem granted_rate (rate : Rate) (capacity start : Nat) {cs : Calls}
    (hordered : cs.Pairwise fun c d => c.1 ≤ d.1) :
    (∀ a z, (full rate capacity start).grantedWithin cs a z ≤
      capacity + 1 + (z - a) / rate.refillPeriod) ∧
    ∀ before, before <+: cs →
      ((full rate capacity start).run before).tokens ≤ capacity ∧
      ∀ now n, let b := (full rate capacity start).run before
        ((b.consume now n).2 = .ok 0 ∧ n ≤ (b.refill now).tokens ∧
          (b.consume now n).1 = { b.refill now with tokens := (b.refill now).tokens - n }) ∨
        ((∃ w, 0 < w ∧ (b.consume now n).2 = .ok w) ∨ ∃ e, (b.consume now n).2 = .error e) ∧
          (b.consume now n).1 = b.refill now := by
  have hfull := Sound.full rate capacity start
  refine ⟨grantedWithin_le hfull hordered, fun before _ => ?_⟩
  obtain ⟨hsound, hcapacity⟩ := hfull.run before
  refine ⟨?_, consume_cases hsound⟩
  have htokens := hsound.tokens_le
  rwa [hcapacity] at htokens

/-- A token is taken just before the next one comes due, and that one right after. -/
def hurried : Calls := [(9, .consume 1), (10, .consume 1), (10, .consume 1), (10, .available)]

/-- One token in ten nanoseconds, and one at most: two are handed out within a nanosecond, and no
    more. -/
theorem granted_rate_tight :
    (full ⟨1, 10⟩ 1 0).grantedWithin hurried 9 10 = 1 + 1 + (10 - 9) / 10 ∧
      (full ⟨1, 10⟩ 1 0).grantedWithin hurried 9 10 ≤ 1 + 1 + (10 - 9) / Rate.refillPeriod ⟨1, 10⟩ ∧
      ((full ⟨1, 10⟩ 1 0).run hurried).tokens ≤ 1 := by
  have hordered : hurried.Pairwise fun c d => c.1 ≤ d.1 := by decide
  obtain ⟨hwithin, hrun⟩ := granted_rate ⟨1, 10⟩ 1 0 hordered
  exact ⟨by decide, hwithin 9 10, (hrun hurried (List.prefix_refl hurried)).1⟩

end Turnpike.Traffic.Bucket
