/-
  Buckets that are dropped when they are idle.

  A token that has not been charged for more than ten periods finds a full bucket, as its old one
  has been dropped.  This is meant to save memory and not to be noticed.  Whether it is depends on
  how long a bucket takes to fill up.

  1. **It cannot be told** (`answersTo_eq_lasting`).  When a bucket fills up in ten periods nobody
     can tell: the old one would be full by then, and be refilled at the same moment
     (`refill_eq_full`).  So each token is answered as by a bucket of its own that is never dropped.
     The argument goes along the charges, and the two buckets are not always the same; but the
     refill before each answer makes them so.

  2. **It can be told** (`rate_exceeded_by_pause`).  When it takes longer to fill up, each pause is
     worth the tokens that have not come due in it.  So much more can be handed out than the rate
     allows.

  3. **What a pause is worth** (`grantedTo_le`).  It is no more than that: the credit of the new
     bucket is that of the old one and what the pause is worth (`credit_full_le`).  With it the
     count is carried on from call to call as for a single bucket, up to the first call of the
     window.

  In both parts a token is looked at alone, which is what it is as long as its bucket is not pushed
  out by those of others.
-/
import Turnpike.Proofs.Traffic.Limiter
import Turnpike.Proofs.Traffic.Probing

namespace Turnpike.Traffic

/-- What one bucket answers to charges that is made full at the first of them and never dropped. -/
def Bucket.lastingAnswers (rate : Rate) (burst : Nat) : List (Nat × Nat) → List (Result Nat)
  | [] => []
  | c :: cs =>
    (Bucket.full rate burst c.1).answers ((c :: cs).map fun c => (c.1, .consume c.2))

namespace Limiter

/-- The tokens handed out from the time `a` to the time `z` to charges with these answers. -/
def granted (a z : Nat) : List (Nat × Nat) → List (Result Nat) → Nat
  | c :: cs, x :: xs =>
    (if a ≤ c.1 ∧ c.1 ≤ z ∧ x = .ok 0 then c.2 else 0) + granted a z cs xs
  | _, _ => 0

/-- The tokens handed out to a token from the time `a` to the time `z`. -/
def grantedTo (l : Limiter) (token : String) (cs : List Charge) (a z : Nat) : Nat :=
  granted a z (chargesTo token cs) (l.answersTo token cs)

/-- The pauses of more than `limit` between times that follow each other, from `a` to `z`. -/
def pauses (limit a z : Nat) : List Nat → Nat
  | s :: t :: ts => (if a ≤ s ∧ t ≤ z ∧ limit < t - s then 1 else 0) + pauses limit a z (t :: ts)
  | _ => 0

/-- What a new bucket holds more than has come due in a pause that lets the old one be dropped. -/
def gain (rate : Rate) (burst : Nat) : Nat := burst - (rate.patience + 1) / rate.refillPeriod

/-- A bucket of this rate and size, last refilled when it was last used or before. -/
structure Fits (rate : Rate) (burst : Nat) (b : Bucket) (seen : Nat) : Prop where
  sound : b.Sound
  refillPeriod_eq : b.refillPeriod = rate.refillPeriod
  capacity_eq : b.capacity = burst
  lastRefill_le : b.lastRefill ≤ seen

variable {rate : Rate} {burst a z seen now n : Nat} {b : Bucket} {held : Option (Bucket × Nat)}
  {charges : List (Nat × Nat)}

theorem fits_full (rate : Rate) (burst now : Nat) : Fits rate burst (.full rate burst now) now :=
  ⟨Bucket.Sound.full rate burst now, rfl, rfl, Nat.le_refl now⟩

theorem Fits.mono (h : Fits rate burst b seen) (hle : seen ≤ now) : Fits rate burst b now :=
  ⟨h.sound, h.refillPeriod_eq, h.capacity_eq, Nat.le_trans h.lastRefill_le hle⟩

/-- A charge leaves a bucket that fits. -/
theorem Fits.consume (h : Fits rate burst b now) (n : Nat) :
    Fits rate burst (b.consume now n).1 now := by
  have hsound := h.sound.after now (.consume n)
  have hafter := (Bucket.after_eq h.sound now (.consume n)).2
  refine ⟨hsound, ?_, ?_, ?_⟩
  · exact (Bucket.refillPeriod_after h.sound now (.consume n)).trans h.refillPeriod_eq
  · exact (Bucket.capacity_after h.sound now (.consume n)).trans h.capacity_eq
  · show (b.after now (.consume n)).lastRefill ≤ now
    rw [hafter]
    exact Bucket.lastRefill_refill_le h.lastRefill_le

/-- The bucket that is charged fits, whether it is the old one or a new one. -/
theorem Fits.bucketAt (h : ∀ b seen, held = some (b, seen) → Fits rate burst b seen ∧ seen ≤ now) :
    Fits rate burst (bucketAt rate burst held now) now := by
  cases held with
  | none => exact fits_full rate burst now
  | some p =>
    obtain ⟨b, seen⟩ := p
    obtain ⟨hfits, hle⟩ := h b seen rfl
    unfold Limiter.bucketAt
    show Fits rate burst (if rate.patience < now - seen then _ else _) now
    split
    · exact fits_full rate burst now
    · exact hfits.mono hle

/-! ## Buckets that fill up in time -/

/-- The old bucket is full, and refilled at the same moment as a new one. -/
theorem refill_eq_full (h : Fits rate burst b seen) (hburst : 0 < burst)
    (hdue : burst * rate.refillPeriod ≤ now - b.lastRefill) :
    b.refill now = .full rate burst now := by
  have hmany : burst ≤ b.due now := by
    rw [Bucket.due, h.refillPeriod_eq]
    refine (Nat.le_div_iff_mul_le ?_).mpr hdue
    rw [← h.refillPeriod_eq]
    exact h.sound.positive
  have htokens : min (b.tokens + b.due now) b.capacity = burst := by
    rw [h.capacity_eq]
    omega
  rw [Bucket.refill_of_due_ne_zero (by omega), htokens, h.refillPeriod_eq, h.capacity_eq]
  rfl

/-- In a new bucket nothing is due. -/
theorem refill_full (rate : Rate) (burst now : Nat) :
    (Bucket.full rate burst now).refill now = .full rate burst now := by
  refine Bucket.refill_of_due_eq_zero ?_
  show (now - now) / rate.refillPeriod = 0
  rw [Nat.sub_self, Nat.zero_div]

/-- The refill period is at most the period, or a nanosecond. -/
theorem refillPeriod_le (rate : Rate) : rate.refillPeriod ≤ max rate.period 1 := by
  have hle : rate.period / rate.units ≤ rate.period := Nat.div_le_self _ _
  unfold Rate.refillPeriod
  omega

/-- A pause that lets a bucket be dropped is long enough to fill one that fills up in ten periods. -/
theorem filled_of_pause (hroom : burst * rate.refillPeriod ≤ 10 * rate.period)
    (hpause : rate.patience < n) (hspan : n ≤ longestSpan) :
    max burst 1 * rate.refillPeriod ≤ n := by
  unfold Rate.patience at hpause
  rcases Nat.eq_zero_or_pos burst with rfl | hpositive
  · have hle := refillPeriod_le rate
    rw [Nat.max_eq_right (Nat.zero_le 1), Nat.one_mul]
    omega
  · rw [Nat.max_eq_left hpositive]
    omega

/-- A token alone is answered as by a bucket that is never dropped. -/
theorem answersAlone_eq_answers (hburst : 0 < burst)
    (hfull : ∀ pause, rate.patience < pause → pause ≤ longestSpan →
      burst * rate.refillPeriod ≤ pause)
    (h : Fits rate burst b seen) (hordered : charges.Pairwise fun c d => c.1 ≤ d.1)
    (hlate : ∀ c ∈ charges, seen ≤ c.1 ∧ c.1 ≤ longestSpan) :
    answersAlone rate burst (some (b, seen)) charges =
      b.answers (charges.map fun c => (c.1, .consume c.2)) := by
  induction charges generalizing b seen with
  | nil => rfl
  | cons c charges ih =>
    obtain ⟨now, n⟩ := c
    obtain ⟨hfirst, hordered⟩ := List.pairwise_cons.mp hordered
    obtain ⟨⟨hle, hspan⟩, hlate⟩ := List.forall_mem_cons.mp hlate
    have hlast := h.lastRefill_le
    have hrefill : (bucketAt rate burst (some (b, seen)) now).refill now = b.refill now := by
      show (if rate.patience < now - seen then Bucket.full rate burst now else b).refill now = _
      split
      case isTrue hpause =>
        -- the bucket was dropped, and would be full by now
        have hlong := hfull (now - seen) hpause (by omega)
        rw [refill_full, refill_eq_full h hburst (by omega)]
      case isFalse => rfl
    have hrest := ih ((h.mono hle).consume n) hordered
      fun d hd => ⟨hfirst d hd, (hlate d hd).2⟩
    rw [answersAlone, Bucket.consume_congr hrefill, hrest, List.map_cons, Bucket.answers]

/-- The charges to one token are in order if all charges are. -/
theorem pairwise_chargesTo {cs : List Charge} (h : cs.Pairwise fun c d => c.now ≤ d.now)
    (token : String) : (chargesTo token cs).Pairwise fun c d => c.1 ≤ d.1 :=
  List.pairwise_map.mpr (h.filter _)

theorem exists_of_mem_chargesTo {cs : List Charge} {token : String} {c : Nat × Nat}
    (h : c ∈ chargesTo token cs) : ∃ d ∈ cs, d.now = c.1 := by
  obtain ⟨d, hd, rfl⟩ := List.mem_map.mp h
  exact ⟨d, (List.mem_filter.mp hd).1, rfl⟩

/-- One bucket for each token, made full at its first charge and never dropped.  That is what a
    limiter answers from when buckets fill up in ten periods, to every token that is charged often
    enough for its bucket not to be pushed out by others: neither the dropping of idle buckets nor
    the charges to other tokens can be told.  Moments are told as spans of time from a first one. -/
theorem answersTo_eq_lasting (rate : Rate) (burst capacity : Nat) {cs : List Charge} {token : String}
    (hroom : burst * rate.refillPeriod ≤ 10 * rate.period)
    (hordered : cs.Pairwise fun c d => c.now ≤ d.now) (hspan : ∀ c ∈ cs, c.now ≤ longestSpan)
    (hfrequent : Frequent token (max capacity 1) cs) :
    (make rate burst capacity).answersTo token cs =
      Bucket.lastingAnswers rate (max burst 1) (chargesTo token cs) := by
  have hkeeps : (make rate burst capacity).Keeps token cs := keeps_of_frequent hfrequent
  have hpairs := pairwise_chargesTo hordered token
  have hspans : ∀ c ∈ chargesTo token cs, c.1 ≤ longestSpan := by
    intro c hc
    obtain ⟨d, hd, heq⟩ := exists_of_mem_chargesTo hc
    rw [← heq]
    exact hspan d hd
  rw [hkeeps.answersTo_eq]
  cases hcharges : chargesTo token cs with
  | nil => rfl
  | cons c charges =>
    rw [hcharges] at hpairs hspans
    obtain ⟨hfirst, -⟩ := List.pairwise_cons.mp hpairs
    -- at the first charge it makes no difference whether the full bucket is already there
    have hstart : answersAlone rate (max burst 1) none (c :: charges) =
        answersAlone rate (max burst 1) (some (.full rate (max burst 1) c.1, c.1)) (c :: charges) := by
      have hbucket : bucketAt rate (max burst 1) (some (.full rate (max burst 1) c.1, c.1)) c.1 =
          .full rate (max burst 1) c.1 := by
        show (if rate.patience < c.1 - c.1 then _ else _) = _
        split
        · rfl
        · rfl
      rw [answersAlone, answersAlone, hbucket]
      rfl
    rw [hstart]
    refine answersAlone_eq_answers (Nat.le_max_right _ _)
      (fun pause hpause hshort => filled_of_pause hroom hpause hshort) (fits_full _ _ _) hpairs ?_
    exact List.forall_mem_cons.mpr ⟨⟨Nat.le_refl _, hspans c List.mem_cons_self⟩,
      fun d hd => ⟨hfirst d hd, hspans d (List.mem_cons_of_mem c hd)⟩⟩

/-- Two tokens take turns.  The bucket of the first is emptied, is short of a token, and is then not
    used for so long that it is dropped. -/
def shared : List Charge :=
  [⟨"a", 0, 2⟩, ⟨"b", 1, 2⟩, ⟨"b", 5, 1⟩, ⟨"a", 15, 2⟩, ⟨"a", 25, 1⟩, ⟨"b", 90, 2⟩, ⟨"a", 130, 2⟩,
    ⟨"a", 139, 1⟩]

/-- One token in ten nanoseconds, two at most, and room for two tokens: a bucket fills up in twenty,
    and is dropped after a hundred. -/
theorem answersTo_eq_lasting_dropped :
    2 * Rate.refillPeriod ⟨1, 10⟩ ≤ 10 * 10 ∧ (shared.Pairwise fun c d => c.now ≤ d.now) ∧
      (∀ c ∈ shared, c.now ≤ longestSpan) ∧ Frequent "a" (max 2 1) shared ∧
      (make ⟨1, 10⟩ 2 2).answersTo "a" shared =
        Bucket.lastingAnswers ⟨1, 10⟩ 2 [(0, 2), (15, 2), (25, 1), (130, 2), (139, 1)] ∧
      (make ⟨1, 10⟩ 2 2).answersTo "a" shared = [.ok 0, .ok 10, .ok 0, .ok 0, .ok 10] := by
  have hroom : 2 * Rate.refillPeriod ⟨1, 10⟩ ≤ 10 * 10 := by decide
  have hordered : shared.Pairwise fun c d => c.now ≤ d.now := by decide
  have hspan : ∀ c ∈ shared, c.now ≤ longestSpan := by decide
  have hfrequent : Frequent "a" (max 2 1) shared := frequent_of_few (by decide)
  have hsame := answersTo_eq_lasting ⟨1, 10⟩ 2 2 hroom hordered hspan hfrequent
  exact ⟨hroom, hordered, hspan, hfrequent, hsame, hsame.trans (by decide)⟩

/-! ## What a pause is worth -/

/-- Charges after the window do not count. -/
theorem granted_of_late (h : ∀ c ∈ charges, z < c.1) (xs : List (Result Nat)) :
    granted a z charges xs = 0 := by
  induction charges generalizing xs with
  | nil => rfl
  | cons c charges ih =>
    obtain ⟨hlate, hrest⟩ := List.forall_mem_cons.mp h
    cases xs with
    | nil => rfl
    | cons x xs => rw [granted, ih hrest, if_neg (by omega)]

/-- With one more time there are no fewer pauses. -/
theorem pauses_le_cons (limit a z s : Nat) (ts : List Nat) :
    pauses limit a z ts ≤ pauses limit a z (s :: ts) := by
  cases ts with
  | nil => exact Nat.le_refl _
  | cons t ts => exact Nat.le_add_left _ _

/-- A charge is granted what the bucket hands out, or comes outside of the window. -/
theorem granted_cons_le (b : Bucket) (a z now n : Nat) (charges : List (Nat × Nat))
    (xs : List (Result Nat)) :
    granted a z ((now, n) :: charges) ((b.consume now n).2 :: xs) ≤
      b.granted now (.consume n) + granted a z charges xs := by
  rw [granted]
  split
  case isTrue hin =>
    have hgranted : b.granted now (.consume n) = n := by
      simp only [Bucket.granted, hin.2.2]
    rw [hgranted]
  case isFalse =>
    rw [Nat.zero_add]
    exact Nat.le_add_left _ _

/-- A new bucket has more credit than the old one at most by what the pause is worth. -/
theorem credit_full_le (h : Fits rate burst b seen) (hpause : rate.patience < now - seen)
    (hle : now ≤ z) :
    (Bucket.full rate burst now).credit z ≤ b.credit z + gain rate burst := by
  have hlast := h.lastRefill_le
  have hspan : rate.patience + 1 + (z - now) ≤ z - b.lastRefill := by omega
  -- what comes due in the pause and what comes due after it is due to the old bucket as well
  have hdiv : (rate.patience + 1) / rate.refillPeriod + (z - now) / rate.refillPeriod ≤
      (z - b.lastRefill) / rate.refillPeriod :=
    Nat.le_trans Nat.div_add_div_le_add_div (Nat.div_le_div_right hspan)
  unfold Bucket.credit gain
  rw [h.refillPeriod_eq]
  show burst + (z - now) / rate.refillPeriod ≤ _
  omega

/-- The bucket that is charged has the credit of the last one, and what a pause was worth. -/
theorem credit_bucketAt_le (h : Fits rate burst b seen) (ha : a ≤ seen) (hle : now ≤ z) :
    (bucketAt rate burst (some (b, seen)) now).credit z ≤
      b.credit z +
        (if a ≤ seen ∧ now ≤ z ∧ rate.patience < now - seen then 1 else 0) * gain rate burst := by
  show (if rate.patience < now - seen then Bucket.full rate burst now else b).credit z ≤ _
  by_cases hpause : rate.patience < now - seen
  · rw [if_pos hpause, if_pos ⟨ha, hle, hpause⟩, Nat.one_mul]
    exact credit_full_le h hpause hle
  · rw [if_neg hpause]
    exact Nat.le_add_right _ _

theorem granted_add_credit (h : Fits rate burst b now) (n z : Nat) :
    b.granted now (.consume n) + (b.consume now n).1.credit z = (b.refill now).credit z :=
  Bucket.granted_add_credit h.sound now z (.consume n)

/-- All that is handed out up to some time was to be had by then, or is what pauses are worth. -/
theorem granted_le_credit (h : Fits rate burst b seen) (ha : a ≤ seen)
    (hordered : charges.Pairwise fun c d => c.1 ≤ d.1) (hlate : ∀ c ∈ charges, seen ≤ c.1) :
    granted a z charges (answersAlone rate burst (some (b, seen)) charges) ≤
      b.credit z + pauses rate.patience a z (seen :: charges.map (·.1)) * gain rate burst := by
  induction charges generalizing b seen with
  | nil => exact Nat.zero_le _
  | cons c charges ih =>
    obtain ⟨now, n⟩ := c
    obtain ⟨hfirst, hordered⟩ := List.pairwise_cons.mp hordered
    obtain ⟨hle, -⟩ := List.forall_mem_cons.mp hlate
    -- after the window nothing counts any more
    rcases Nat.lt_or_ge z now with hover | hz
    · rw [granted_of_late]
      · exact Nat.zero_le _
      · exact List.forall_mem_cons.mpr ⟨hover, fun d hd => Nat.lt_of_lt_of_le hover (hfirst d hd)⟩
    · have hfits : Fits rate burst (bucketAt rate burst (some (b, seen)) now) now :=
        Fits.bucketAt fun b' seen' heq => by
          cases heq
          exact ⟨h, hle⟩
      have hrest := ih (hfits.consume n) (Nat.le_trans ha hle) hordered hfirst
      have hpaid := granted_add_credit hfits n z
      have hrefill :=
        Bucket.credit_refill_le_credit (b := bucketAt rate burst (some (b, seen)) now) hz
      have hcredit := credit_bucketAt_le h ha hz
      have hfirst := granted_cons_le (bucketAt rate burst (some (b, seen)) now) a z now n charges
        (answersAlone rate burst
          (some (((bucketAt rate burst (some (b, seen)) now).consume now n).1, now)) charges)
      rw [answersAlone, List.map_cons, pauses, Nat.add_mul]
      dsimp only
      omega

/-- From the first charge of a window on, what is handed out is bounded by the credit at that charge
    and what the pauses are worth. -/
theorem granted_le
    (hheld : ∀ b seen, held = some (b, seen) → Fits rate burst b seen ∧ ∀ c ∈ charges, seen ≤ c.1)
    (hordered : charges.Pairwise fun c d => c.1 ≤ d.1) (a z : Nat) :
    granted a z charges (answersAlone rate burst held charges) ≤
      burst + 1 + (z - a) / rate.refillPeriod +
        pauses rate.patience a z (charges.map (·.1)) * gain rate burst := by
  induction charges generalizing held with
  | nil => exact Nat.zero_le _
  | cons c charges ih =>
    obtain ⟨now, n⟩ := c
    obtain ⟨hfirst, hordered⟩ := List.pairwise_cons.mp hordered
    have hfits : Fits rate burst (bucketAt rate burst held now) now :=
      Fits.bucketAt fun b seen heq =>
        ⟨(hheld b seen heq).1, (hheld b seen heq).2 (now, n) List.mem_cons_self⟩
    rw [answersAlone, List.map_cons]
    dsimp only
    rcases Nat.lt_or_ge now a with hearly | hle
    · -- the window has not begun
      have hrest := @ih (some (((bucketAt rate burst held now).consume now n).1, now))
        (fun b seen heq => by
          cases heq
          exact ⟨hfits.consume n, hfirst⟩) hordered
      have hmore := Nat.mul_le_mul_right (gain rate burst)
        (pauses_le_cons rate.patience a z now (charges.map (·.1)))
      rw [granted, if_neg (by omega), Nat.zero_add]
      exact Nat.le_trans hrest (Nat.add_le_add_left hmore _)
    · have hrest := granted_le_credit (z := z) (hfits.consume n) hle hordered hfirst
      have hpaid := granted_add_credit hfits n z
      have hcredit := Bucket.credit_refill_le hfits.sound now z
      rw [hfits.capacity_eq, hfits.refillPeriod_eq] at hcredit
      have hdiv : (z - now) / rate.refillPeriod ≤ (z - a) / rate.refillPeriod :=
        Nat.div_le_div_right (by omega)
      have hcharge := granted_cons_le (bucketAt rate burst held now) a z now n charges
        (answersAlone rate burst
          (some (((bucketAt rate burst held now).consume now n).1, now)) charges)
      omega

/-- However a token is charged, at times that do not go back, and while its bucket is not pushed out
    by others: from one time to another it is granted its burst at most, one token more, one for
    every refill period in between, and for each pause in between that lets its bucket be dropped
    what a full bucket holds more than has come due in the pause.  That is nothing when a bucket
    fills up in such a pause. -/
theorem grantedTo_le (rate : Rate) (burst capacity : Nat) {cs : List Charge} {token : String}
    (hordered : cs.Pairwise fun c d => c.now ≤ d.now)
    (hkeeps : (make rate burst capacity).Keeps token cs) (a z : Nat) :
    (make rate burst capacity).grantedTo token cs a z ≤
        max burst 1 + 1 + (z - a) / rate.refillPeriod +
          pauses rate.patience a z ((chargesTo token cs).map (·.1)) *
            (max burst 1 - (rate.patience + 1) / rate.refillPeriod) ∧
      (max burst 1 * rate.refillPeriod ≤ rate.patience + 1 →
        (make rate burst capacity).grantedTo token cs a z ≤
          max burst 1 + 1 + (z - a) / rate.refillPeriod) := by
  have hall : (make rate burst capacity).grantedTo token cs a z ≤
      max burst 1 + 1 + (z - a) / rate.refillPeriod +
        pauses rate.patience a z ((chargesTo token cs).map (·.1)) * gain rate (max burst 1) := by
    rw [grantedTo, hkeeps.answersTo_eq]
    exact granted_le (fun _ _ heq => by cases heq) (pairwise_chargesTo hordered token) a z
  -- when it fills up in such a pause, a pause is worth nothing
  refine ⟨hall, fun hfull => ?_⟩
  have hperiod : 0 < rate.refillPeriod := (Bucket.Sound.full rate burst 0).positive
  have hnone : gain rate (max burst 1) = 0 :=
    Nat.sub_eq_zero_of_le ((Nat.le_div_iff_mul_le hperiod).mpr hfull)
  rwa [hnone, Nat.mul_zero, Nat.add_zero] at hall

/-- A token takes all that it can have, and does so again as soon as its bucket has been dropped. -/
def paused : List Charge := [⟨"a", 0, 100⟩, ⟨"a", 10000000001, 100⟩]

/-- One token in a second, and a hundred at once: two hundred are handed out within eleven seconds. -/
theorem grantedTo_le_paused :
    (paused.Pairwise fun c d => c.now ≤ d.now) ∧
      (make ⟨1, 1000000000⟩ 100 usualCapacity).Keeps "a" paused ∧
      (make ⟨1, 1000000000⟩ 100 usualCapacity).grantedTo "a" paused 0 10000000001 = 200 ∧
      200 ≤ 100 + 1 + 10 + 1 * (100 - 10) := by
  have hordered : paused.Pairwise fun c d => c.now ≤ d.now := by decide
  have hkeeps : (make ⟨1, 1000000000⟩ 100 usualCapacity).Keeps "a" paused :=
    keeps_of_frequent (frequent_of_few (by decide))
  have hgranted :
      (make ⟨1, 1000000000⟩ 100 usualCapacity).grantedTo "a" paused 0 10000000001 = 200 := by
    decide
  have hbound := (grantedTo_le ⟨1, 1000000000⟩ 100 usualCapacity hordered hkeeps 0 10000000001).1
  rw [hgranted] at hbound
  exact ⟨hordered, hkeeps, hgranted, hbound⟩

/-- Without counting the pause there would be a hundred and eleven at most. -/
theorem rate_exceeded_by_pause :
    ¬ ∀ cs : List Charge, (cs.Pairwise fun c d => c.now ≤ d.now) →
      (make ⟨1, 1000000000⟩ 100 usualCapacity).Keeps "a" cs → ∀ a z,
        (make ⟨1, 1000000000⟩ 100 usualCapacity).grantedTo "a" cs a z ≤
          100 + 1 + (z - a) / Rate.refillPeriod ⟨1, 1000000000⟩ := by
  intro h
  have hkeeps : (make ⟨1, 1000000000⟩ 100 usualCapacity).Keeps "a" paused :=
    keeps_of_frequent (frequent_of_few (by decide))
  exact absurd (h paused (by decide) hkeeps 0 10000000001) (by decide)

end Limiter

end Turnpike.Traffic
