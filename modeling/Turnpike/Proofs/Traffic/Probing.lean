/-
  What it costs to look into a bucket.

  One may ask a bucket how many tokens it has, and would think that to ask does not matter.  But a
  look adds the tokens that are due, as a request does, and then the moment of the look becomes that
  of the last refill.  The time that had passed towards the next token is not counted any more.

  1. **Two refills in a row** (`due_eq_add`).  To count the tokens due in two parts may lose one,
     for the time that is over in both parts.  So a look costs one token at most, and never brings
     one (`tokens_refill_refill`).

  2. **Unseen looks** (`Unseen`).  A look at a time when no token is due leaves the bucket as it is.
     When tokens come due at every moment, no time is ever left over.  And a bucket that has no room
     for any answers the same whatever happens.  In these cases all requests that follow are
     answered as they would be without the look (`answers_refill`).

  3. **Seen looks** (`tellingRequests`).  In all other cases two requests tell that the bucket was
     looked at: one right after it, for all the tokens that are there then, and one for a single
     token at the time when the next one is due after the look.  If the first is granted in both
     cases, it leaves both buckets empty, one refilled at the look and the other after it.

  4. **Outcome** (`probe_unseen_iff`).  So a look is unseen exactly in these three cases, and any
     number of unseen looks may be left out (`answers_requests`).
-/
import Turnpike.Proofs.Traffic.Bucket

namespace Turnpike.Traffic.Bucket

/-! ## Requests and looks -/

/-- The times of the calls do not go back. -/
def InOrder (cs : Calls) : Prop := cs.Pairwise fun c d => c.1 ≤ d.1

instance (cs : Calls) : Decidable (InOrder cs) :=
  inferInstanceAs (Decidable (cs.Pairwise fun c d => c.1 ≤ d.1))

/-- What the requests among some calls are answered. -/
def answers (b : Bucket) : Calls → List (Result Nat)
  | [] => []
  | (now, .consume n) :: cs => (b.consume now n).2 :: (b.consume now n).1.answers cs
  | (now, .available) :: cs => (b.refill now).answers cs

/-- The requests among some calls. -/
def requests (cs : Calls) : Calls := cs.filter fun c => decide (c.2 ≠ .available)

/-- No later request tells whether the bucket was looked at: no token is due, or one comes due at
    every moment, or there is room for none. -/
def Unseen (b : Bucket) (now : Nat) : Prop :=
  b.due now = 0 ∨ b.refillPeriod = 1 ∨ b.capacity = 0

instance (b : Bucket) (now : Nat) : Decidable (b.Unseen now) :=
  inferInstanceAs (Decidable (_ ∨ _ ∨ _))

/-- Every look among the calls is unseen. -/
def AllUnseen (b : Bucket) (cs : Calls) : Prop :=
  ∀ before now after, cs = before ++ (now, .available) :: after → (b.run before).Unseen now

variable {b b' : Bucket} {now p q n : Nat} {cs later : Calls}

/-- The answers to some calls come before those to the rest. -/
theorem answers_append (b : Bucket) (cs ds : Calls) :
    b.answers (cs ++ ds) = b.answers cs ++ (b.run cs).answers ds := by
  induction cs generalizing b with
  | nil => rfl
  | cons c cs ih =>
    obtain ⟨now, call⟩ := c
    cases call with
    | consume n =>
      rw [List.cons_append, answers, answers, ih, List.cons_append]
      rfl
    | available =>
      rw [List.cons_append, answers, answers, ih]
      rfl

/-! ## Refills in a row -/

theorem due_refill (hdue : b.due p ≠ 0) (q : Nat) :
    (b.refill p).due q = (q - p) / b.refillPeriod := by
  rw [refill_of_due_ne_zero hdue]
  rfl

/-- To count the tokens due in two parts may lose one, for the time that is over in both. -/
theorem due_eq_add (h : b.Sound) (hdue : b.due p ≠ 0) (hle : p ≤ q) :
    b.due q = b.due p + (q - p) / b.refillPeriod ∨
      b.due q = b.due p + (q - p) / b.refillPeriod + 1 := by
  have hlt := lastRefill_lt_of_due hdue
  have hsplit : q - b.lastRefill = (p - b.lastRefill) + (q - p) := by omega
  unfold due
  rw [hsplit, Nat.add_div h.positive]
  split
  · right
    rfl
  · left
    rfl

/-- A look costs one token at most, and brings none. -/
theorem tokens_refill_refill (h : b.Sound) (hle : p ≤ q) :
    ((b.refill p).refill q).tokens ≤ (b.refill q).tokens ∧
      (b.refill q).tokens ≤ ((b.refill p).refill q).tokens + 1 := by
  -- the first refill does nothing, or it is where the time is cut in two
  by_cases hdue : b.due p = 0
  · rw [refill_of_due_eq_zero hdue]
    exact ⟨Nat.le_refl _, Nat.le_succ _⟩
  · have hparts := due_eq_add h hdue hle
    rw [tokens_refill (h.refill p), tokens_refill h, tokens_refill h, due_refill hdue,
      capacity_refill]
    generalize (q - p) / b.refillPeriod = rest at hparts ⊢
    omega

/-- When tokens come due at every moment, no time is ever left over. -/
theorem refill_refill_of_one (hone : b.refillPeriod = 1) (hle : p ≤ q) :
    (b.refill p).refill q = b.refill q := by
  by_cases hdue : b.due p = 0
  · rw [refill_of_due_eq_zero hdue]
  · have hlt := lastRefill_lt_of_due hdue
    have hp : b.due p = p - b.lastRefill := by rw [due, hone, Nat.div_one]
    have hq : b.due q = q - b.lastRefill := by rw [due, hone, Nat.div_one]
    have hrest : (b.refill p).due q = q - p := by rw [due_refill hdue, hone, Nat.div_one]
    have hlater : b.due q ≠ 0 := by omega
    rw [refill_of_due_ne_zero hlater]
    by_cases heq : q = p
    · rw [refill_of_due_eq_zero (by omega), refill_of_due_ne_zero hdue, heq]
    · rw [refill_of_due_ne_zero (by omega), hrest, refill_of_due_ne_zero hdue]
      simp only [mk.injEq, true_and, and_true]
      omega

/-! ## When a look is unseen -/

theorem consume_congr (h : b.refill now = b'.refill now) (n : Nat) :
    b.consume now n = b'.consume now n := by
  simp only [consume, h]

/-- A call finds what the refill leaves. -/
theorem answers_congr (h : b.refill q = b'.refill q) (c : Call) (cs : Calls) :
    b.answers ((q, c) :: cs) = b'.answers ((q, c) :: cs) := by
  cases c with
  | consume n => rw [answers, answers, consume_congr h]
  | available => rw [answers, answers, h]

/-- A bucket without room grants the request for nothing, and no other. -/
theorem consume_of_capacity_eq_zero (hroom : b.capacity = 0) (now n : Nat) :
    (b.consume now n).2 = if n = 0 then .ok 0 else .error (.tokensExceedBurst n 0) := by
  simp only [consume, capacity_refill, hroom]
  by_cases hn : n = 0
  · have hnone : ¬ 0 < n := by omega
    have henough : ¬ (b.refill now).tokens < n := by omega
    rw [if_pos hn, if_neg hnone, if_neg henough]
  · have hsome : 0 < n := by omega
    rw [if_neg hn, if_pos hsome]

/-- So all buckets without room answer the same. -/
theorem answers_of_capacity_eq_zero (h : b.Sound) (h' : b'.Sound) (hroom : b.capacity = 0)
    (hroom' : b'.capacity = 0) (cs : Calls) : b.answers cs = b'.answers cs := by
  induction cs generalizing b b' with
  | nil => rfl
  | cons c cs ih =>
    obtain ⟨now, call⟩ := c
    have hrest := ih (h.after now call) (h'.after now call)
      ((capacity_after h now call).trans hroom) ((capacity_after h' now call).trans hroom')
    cases call with
    | consume n =>
      rw [answers, answers, consume_of_capacity_eq_zero hroom,
        consume_of_capacity_eq_zero hroom']
      exact congrArg _ hrest
    | available => exact hrest

/-- An unseen look changes no later answer. -/
theorem answers_refill (h : b.Sound) (hunseen : b.Unseen p) (hlater : ∀ c ∈ later, p ≤ c.1) :
    (b.refill p).answers later = b.answers later := by
  rcases hunseen with hdue | hone | hroom
  · rw [refill_of_due_eq_zero hdue]
  · cases later with
    | nil => rfl
    | cons c cs => exact answers_congr (refill_refill_of_one hone (hlater c List.mem_cons_self)) _ _
  · exact answers_of_capacity_eq_zero (h.refill p) h ((capacity_refill b p).trans hroom) hroom later

/-! ## When a look is seen -/

/-- The requests that tell whether the bucket was looked at: for all its tokens right afterwards, and
    for the one that is due next after the look. -/
def tellingRequests (b : Bucket) (p : Nat) : Calls :=
  [(p + 1, .consume (b.refill (p + 1)).tokens), (p + b.refillPeriod, .consume 1)]

/-- The bucket after all its tokens have been taken. -/
def emptied (b : Bucket) (now : Nat) : Bucket := { b.refill now with tokens := 0 }

/-- All the tokens are there to be had. -/
theorem consume_tokens (h : b.Sound) (now : Nat) :
    b.consume now (b.refill now).tokens = (b.emptied now, .ok 0) := by
  have hle := (h.refill now).tokens_le
  simp only [consume]
  rw [if_neg (Nat.not_lt.mpr hle), if_neg (Nat.lt_irrefl _), Nat.sub_self, emptied]

/-- The next token of a bucket that was refilled and emptied is due one period after that. -/
theorem consume_emptied_iff (h : b.Sound) (hdue : b.due p ≠ 0) (hroom : b.capacity ≠ 0) (q : Nat) :
    ((b.emptied p).consume q 1).2 = .ok 0 ↔ p + b.refillPeriod ≤ q := by
  have hsound : (b.emptied p).Sound := ⟨(h.refill p).positive, Nat.zero_le _⟩
  have hq : (b.emptied p).due q = (q - p) / b.refillPeriod := by
    rw [emptied, refill_of_due_ne_zero hdue]
    rfl
  have hcapacity : (b.emptied p).capacity = b.capacity := capacity_refill b p
  have htokens : (b.emptied p).tokens = 0 := rfl
  have hone : 1 ≤ (q - p) / b.refillPeriod ↔ b.refillPeriod ≤ q - p :=
    Nat.one_le_div_iff h.positive
  have hpositive := h.positive
  rw [consume_eq_ok_zero_iff hsound, tokens_refill hsound, hq, hcapacity, htokens]
  omega

/-- A look that is not unseen changes one of these two answers. -/
theorem answers_tellingRequests_ne (h : b.Sound) (hseen : ¬ b.Unseen p) :
    (b.refill p).answers (b.tellingRequests p) ≠ b.answers (b.tellingRequests p) := by
  have hdue : b.due p ≠ 0 := fun hzero => hseen (.inl hzero)
  have hone : b.refillPeriod ≠ 1 := fun hone => hseen (.inr (.inl hone))
  have hroom : b.capacity ≠ 0 := fun hroom => hseen (.inr (.inr hroom))
  have hpositive := h.positive
  -- right after the look nothing has come due, and without it all that is due is added only now
  have hlooked : (b.refill p).refill (p + 1) = b.refill p := by
    refine refill_of_due_eq_zero ?_
    rw [due_refill hdue]
    exact Nat.div_eq_of_lt (by omega)
  have hlate : b.due (p + 1) ≠ 0 := by
    have hparts := due_eq_add h hdue (Nat.le_add_right p 1)
    generalize (p + 1 - p) / b.refillPeriod = rest at hparts
    omega
  intro hsame
  rw [tellingRequests, answers, answers, answers, answers, consume_tokens h] at hsame
  obtain ⟨hfirst, hrest⟩ := List.cons.inj hsame
  obtain ⟨hsecond, -⟩ := List.cons.inj hrest
  -- the first request is granted after the look too, so that the look has cost no token
  have htokens : (b.refill (p + 1)).tokens = ((b.refill p).refill (p + 1)).tokens := by
    have henough := (consume_eq_ok_zero_iff (h.refill p)).mp hfirst
    exact Nat.le_antisymm henough (tokens_refill_refill h (Nat.le_add_right p 1)).1
  -- both are left empty; the next token is due one period after the look, or after the request
  have hleft : (b.refill p).emptied (p + 1) = b.emptied p := by rw [emptied, hlooked, emptied]
  rw [htokens, consume_tokens (h.refill p), hleft,
    (consume_emptied_iff h hdue hroom _).mpr (Nat.le_refl _)] at hsecond
  have hnext := (consume_emptied_iff h hlate hroom _).mp hsecond.symm
  omega

/-- The telling requests come after the look. -/
theorem le_of_mem_tellingRequests {c : Nat × Call} (hc : c ∈ b.tellingRequests p) : p ≤ c.1 := by
  simp only [tellingRequests, List.mem_cons, List.not_mem_nil, or_false] at hc
  rcases hc with rfl | rfl
  · exact Nat.le_succ p
  · exact Nat.le_add_right p _

/-- The telling requests may follow the look. -/
theorem inOrder_tellingRequests (h : b.Sound) {before : Calls}
    (hordered : InOrder (before ++ [(p, .available)])) :
    InOrder (before ++ (p, .available) :: b.tellingRequests p) := by
  have hpositive := h.positive
  have htelling : InOrder (b.tellingRequests p) := by
    refine List.pairwise_pair.mpr ?_
    show p + 1 ≤ p + b.refillPeriod
    omega
  obtain ⟨hbefore, -, hbetween⟩ := List.pairwise_append.mp hordered
  refine List.pairwise_append.mpr ⟨hbefore, List.pairwise_cons.mpr
    ⟨fun d hd => le_of_mem_tellingRequests hd, htelling⟩, fun c hc d hd => ?_⟩
  have hcp : c.1 ≤ p := hbetween c hc _ List.mem_cons_self
  rcases List.mem_cons.mp hd with rfl | hd
  · exact hcp
  · exact Nat.le_trans hcp (le_of_mem_tellingRequests hd)

/-! ## Many looks -/

/-- Looks that are all unseen may be left out. -/
theorem answers_requests (h : b.Sound) (hordered : InOrder cs) (hunseen : b.AllUnseen cs) :
    b.answers cs = b.answers (requests cs) := by
  induction cs generalizing b with
  | nil => rfl
  | cons c cs ih =>
    obtain ⟨hfirst, hordered⟩ := List.pairwise_cons.mp hordered
    have hrest := ih (h.after c.1 c.2) hordered fun before now after heq =>
      hunseen (c :: before) now after (by rw [heq, List.cons_append])
    obtain ⟨now, call⟩ := c
    cases call with
    | consume n =>
      rw [requests, List.filter_cons_of_pos rfl, answers, answers]
      exact congrArg _ hrest
    | available =>
      -- the look goes first: what is left without looks is answered the same without it
      have hnow : b.Unseen now := hunseen [] now cs rfl
      rw [requests, List.filter_cons_of_neg (by simp), answers]
      refine hrest.trans (answers_refill h hnow fun d hd => ?_)
      exact hfirst d (List.mem_filter.mp hd).1

/-- Whether a look at a bucket makes a difference to later requests.  None can tell exactly when, at
    that time, no token is due, or tokens come due at every moment, or there is no room for any.  A
    look costs one token at most, and brings none.  And looks that nobody can tell may be made as
    often as one likes. -/
theorem probe_unseen_iff (rate : Rate) (capacity start : Nat) {before : Calls} {p : Nat}
    (hordered : InOrder (before ++ [(p, .available)])) :
    ((∀ later, InOrder (before ++ (p, .available) :: later) →
        (full rate capacity start).answers (before ++ (p, .available) :: later) =
          (full rate capacity start).answers (before ++ later)) ↔
      ((full rate capacity start).run before).Unseen p) ∧
    (∀ q, p ≤ q →
      let left := (((full rate capacity start).run before).available q).2
      let left' :=
        (((full rate capacity start).run (before ++ [(p, .available)])).available q).2
      left' ≤ left ∧ left ≤ left' + 1) ∧
    ∀ cs, InOrder cs → (full rate capacity start).AllUnseen cs →
      (full rate capacity start).answers cs = (full rate capacity start).answers (requests cs) := by
  have hsound := ((Sound.full rate capacity start).run before).1
  refine ⟨⟨fun hall => ?_, fun hunseen later hlater => ?_⟩, fun q hle => ?_, fun cs => ?_⟩
  -- the telling requests may follow, and their answers are not the same
  · by_contra hseen
    refine answers_tellingRequests_ne hsound hseen ?_
    have htelling := hall _ (inOrder_tellingRequests hsound hordered)
    rw [answers_append, answers_append, answers] at htelling
    exact List.append_cancel_left htelling
  · obtain ⟨-, hrest, -⟩ := List.pairwise_append.mp hlater
    rw [answers_append, answers_append, answers,
      answers_refill hsound hunseen (List.pairwise_cons.mp hrest).1]
  · have hlook : (full rate capacity start).run (before ++ [(p, .available)]) =
        ((full rate capacity start).run before).refill p := by
      rw [run, List.foldl_append]
      rfl
    rw [hlook]
    exact tokens_refill_refill hsound hle
  · exact answers_requests (Sound.full rate capacity start)

/-- All tokens are taken, one and a half comes due and is looked for, and at two a request for two is
    made. -/
def probed : Calls := [(0, .consume 2), (15, .available), (20, .consume 2)]

/-- One token in ten nanoseconds, and two at most: whoever looks at fifteen can be found out.  The
    bucket has one token at twenty, and two without the look. -/
theorem probe_unseen_iff_untimely :
    InOrder ([(0, .consume 2)] ++ [(15, .available)]) ∧
      (¬ ∀ later, InOrder ([(0, .consume 2)] ++ (15, .available) :: later) →
        (full ⟨1, 10⟩ 2 0).answers ([(0, .consume 2)] ++ (15, .available) :: later) =
          (full ⟨1, 10⟩ 2 0).answers ([(0, .consume 2)] ++ later)) ∧
      (((full ⟨1, 10⟩ 2 0).run [(0, .consume 2)]).available 20).2 ≤
        (((full ⟨1, 10⟩ 2 0).run ([(0, .consume 2)] ++ [(15, .available)])).available 20).2 + 1 := by
  have hordered : InOrder ([(0, .consume 2)] ++ [(15, .available)]) := by decide
  obtain ⟨hiff, hcost, -⟩ := probe_unseen_iff ⟨1, 10⟩ 2 0 hordered
  refine ⟨hordered, fun hall => ?_, (hcost 20 (by decide)).2⟩
  exact absurd (hiff.mp hall) (by decide)

/-- With the look at fifteen the request for two at twenty has to wait, and without it it is
    granted. -/
theorem probe_costs_token :
    ¬ ∀ cs, InOrder cs →
      (full ⟨1, 10⟩ 2 0).answers cs = (full ⟨1, 10⟩ 2 0).answers (requests cs) := by
  intro h
  exact absurd (h probed (by decide)) (by decide)

end Turnpike.Traffic.Bucket
