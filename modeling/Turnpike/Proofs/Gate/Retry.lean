/-
  Coming back as late as told.

  A limit on rates that turns a request away tells it how long to wait.  A request of the same payer
  that comes no earlier should be let through, whatever other payers have asked in between.  Much
  can happen to a bucket in that time: it is filled up when it is used again, dropped when it has
  been idle, and pushed out by the buckets of others.

  1. **Limiters over time** (`Limiter.Timely`).  While the clock does not go back, every bucket has
     the rate and the size of the limiter, and none was used later than now.  Charges keep that.

  2. **The bucket of the payer** (`held?_run_of_ne`).  Charges to other tokens leave it as it is or
     push it out.  So the payer that comes again finds its bucket as it left it, or a new one, which
     is full.

  3. **Coming again** (`Timely.granted_again`).  In the same bucket what is missing has come due:
     the wait that was told is for all that is missing, counted from the last refill or later.  A
     full one holds what is asked for, as no request asks for more than a bucket holds.

  4. **Seconds** (`le_toldSeconds`).  What is told are whole seconds, rounded up, so that they are
     never less than the wait of the bucket; and they can be read off the header again
     (`seconds_inj`).

  5. **Requests** (`admitted_after_retry`).  An arrival makes one charge, or none when nobody can be
     charged for it.  So a limit that has seen some arrivals has been charged for them in their
     order (`limiter_run`), and what holds of charges holds of requests.
-/
import Turnpike.Gate.Limits
import Turnpike.Proofs.Http.Header
import Turnpike.Proofs.Result
import Turnpike.Proofs.Traffic.Idling
import Turnpike.Proofs.Traffic.Waiting

namespace Turnpike.Traffic

/-! ## Limiters over time -/

theorem Rate.refillPeriod_le_longestWait (rate : Rate) : rate.refillPeriod ≤ longestWait :=
  Nat.min_le_right _ _

namespace Limiter

variable {l : Limiter} {token : String} {now z w : Nat} {c d : Charge} {cs between : List Charge}

theorem rate_run (l : Limiter) (cs : List Charge) : (l.run cs).rate = l.rate := by
  induction cs generalizing l with
  | nil => rfl
  | cons c cs ih => exact (ih (l.after c)).trans (rate_after l c)

theorem burst_run (l : Limiter) (cs : List Charge) : (l.run cs).burst = l.burst := by
  induction cs generalizing l with
  | nil => rfl
  | cons c cs ih => exact (ih (l.after c)).trans (burst_after l c)

/-- Charges to other tokens change nothing, or push the bucket out. -/
theorem held?_run_of_ne (hothers : ∀ d ∈ cs, d.token ≠ token) :
    (l.run cs).held? token = none ∨ (l.run cs).held? token = l.held? token := by
  induction cs generalizing l with
  | nil => exact .inr rfl
  | cons d cs ih =>
    obtain ⟨hne, hothers⟩ := List.forall_mem_cons.mp hothers
    show ((l.after d).run cs).held? token = none ∨ ((l.after d).run cs).held? token = _
    -- it was pushed out later, or it is as it was after the first charge
    rcases ih (l := l.after d) hothers with hnone | hsame
    · exact .inl hnone
    · rw [hsame]
      exact held?_after_of_ne hne

/-- Every bucket has the rate and the size of the limiter, and none was used after `now`. -/
structure Timely (l : Limiter) (now : Nat) : Prop where
  burst_pos : 0 < l.burst
  held : ∀ token b seen, l.held? token = some (b, seen) → Fits l.rate l.burst b seen ∧ seen ≤ now

theorem timely_make (rate : Rate) (burst capacity now : Nat) :
    (make rate burst capacity).Timely now where
  burst_pos := Nat.lt_of_lt_of_le Nat.one_pos (Nat.le_max_right _ _)
  held := fun _ _ _ h => by cases h

/-- What was not used after a time was not used after a later one. -/
theorem Timely.mono (h : l.Timely now) (hle : now ≤ z) : l.Timely z where
  burst_pos := h.burst_pos
  held := fun token b seen heq =>
    ⟨(h.held token b seen heq).1, Nat.le_trans (h.held token b seen heq).2 hle⟩

theorem Timely.fits (h : l.Timely now) (token : String) :
    Fits l.rate l.burst (bucketAt l.rate l.burst (l.held? token) now) now :=
  Fits.bucketAt fun b seen heq => h.held token b seen heq

/-- A charge uses one bucket, now. -/
theorem Timely.after (h : l.Timely now) (hle : now ≤ c.now) : (l.after c).Timely c.now where
  burst_pos := h.burst_pos
  held := by
    intro token b seen heq
    rw [rate_after, burst_after]
    -- the bucket of this charge, and then another one
    by_cases htoken : c.token = token
    · rw [← htoken, held?_after_self] at heq
      cases heq
      exact ⟨((h.mono hle).fits c.token).consume c.amount, Nat.le_refl _⟩
    · rcases held?_after_of_ne (l := l) htoken with hnone | hsame
      · rw [hnone] at heq
        cases heq
      · rw [hsame] at heq
        exact (h.mono hle).held token b seen heq

/-- So it goes on, as long as the clock does. -/
theorem Timely.run (h : l.Timely now) (hordered : cs.Pairwise fun c d => c.now ≤ d.now)
    (hle : now ≤ z) (hwithin : ∀ c ∈ cs, now ≤ c.now ∧ c.now ≤ z) : (l.run cs).Timely z := by
  induction cs generalizing l now with
  | nil => exact h.mono hle
  | cons c cs ih =>
    obtain ⟨hfirst, hordered⟩ := List.pairwise_cons.mp hordered
    obtain ⟨⟨hlate, hearly⟩, hwithin⟩ := List.forall_mem_cons.mp hwithin
    exact ih (h.after hlate) hordered hearly fun d hd => ⟨hfirst d hd, (hwithin d hd).2⟩

/-- A charge of what a bucket can hold is answered with a wait, which may be none. -/
theorem Timely.exists_wait (h : l.Timely c.now) (hroom : c.amount ≤ l.burst) :
    ∃ w, l.answer c = .ok w := by
  have hfits := h.fits c.token
  rw [answer_eq]
  simp only [Bucket.consume, Bucket.capacity_refill, hfits.capacity_eq]
  rw [if_neg (by omega)]
  split
  · exact ⟨_, rfl⟩
  · exact ⟨0, rfl⟩

theorem consume_full {rate : Rate} {burst n : Nat} (hroom : n ≤ burst) (now : Nat) :
    ((Bucket.full rate burst now).consume now n).2 = .ok 0 := by
  rw [Bucket.consume_eq_ok_zero_iff (Bucket.Sound.full rate burst now), refill_full]
  exact hroom

/-- Who comes again as late as told finds the tokens: in the same bucket, or in a new one. -/
theorem Timely.granted_again (h : l.Timely c.now) (hwait : l.answer c = .ok w) (hpositive : 0 < w)
    (hshort : c.amount * l.rate.refillPeriod ≤ longestWait)
    (hothers : ∀ e ∈ between, e.token ≠ c.token) (htoken : d.token = c.token)
    (hamount : d.amount = c.amount) (hlate : c.now + w ≤ d.now) :
    ((l.after c).run between).answer d = .ok 0 := by
  have hfits := h.fits c.token
  rw [answer_eq] at hwait
  obtain ⟨hfew, hroom, htold, hsame⟩ := Bucket.consume_eq_wait hwait hpositive
  have hkept := hfits.consume c.amount
  rw [hsame] at hkept
  rw [hfits.capacity_eq] at hroom
  rw [hfits.refillPeriod_eq] at htold
  rw [answer_eq, rate_run, rate_after, burst_run, burst_after, htoken, hamount]
  -- pushed out by others, or still there
  rcases held?_run_of_ne (l := l.after c) hothers with hnone | hheld
  · rw [hnone]
    exact consume_full hroom d.now
  · rw [hheld, held?_after_self]
    show ((if l.rate.patience < d.now - c.now then Bucket.full l.rate l.burst d.now
      else (l.charged c).bucket).consume d.now c.amount).2 = .ok 0
    -- it may have been idle for so long that it is dropped
    split
    case isTrue => exact consume_full hroom d.now
    case isFalse =>
      have hbucket : (l.charged c).bucket =
          (bucketAt l.rate l.burst (l.held? c.token) c.now).refill c.now := hsame
      rw [hbucket, Bucket.consume_of_few_iff hkept.sound hfew
        (by rw [hkept.capacity_eq]; exact hroom), hkept.refillPeriod_eq]
      -- the wait that was told is for all that is missing, counted from the last refill or later
      have hmissing := Nat.mul_le_mul_right l.rate.refillPeriod
        (Nat.sub_le c.amount
          ((bucketAt l.rate l.burst (l.held? c.token) c.now).refill c.now).tokens)
      have hlast := hkept.lastRefill_le
      omega

end Limiter

end Turnpike.Traffic

namespace Turnpike.Http

/-- The seconds that a response over a limit tells. -/
def Response.toldSeconds (wait : Nat) : Nat := max (Response.wholeSeconds wait) 1

theorem Response.le_toldSeconds (wait : Nat) : wait ≤ toldSeconds wait * 1000000000 := by
  unfold toldSeconds wholeSeconds
  omega

theorem Response.seconds_inj {m n : Nat} (h : toString m = toString n) : m = n := by
  have hdigits := congrArg (fun t => Nat.ofDigitChars 10 t.toList 0) h
  simpa only [Nat.toString_eq_repr, Nat.toList_repr, Nat.reduceLT, Nat.le_refl,
    Nat.ofDigitChars_toDigits] using hdigits

theorem Response.get?_tooMany (message : String) (wait : Nat) :
    (tooMany message (some wait)).headers.get? "retry-after" = some (toString (toldSeconds wait)) :=
  Headers.get?_set _ _ _

end Turnpike.Http

namespace Turnpike.Gate

open Turnpike.Http Turnpike.Traffic

/-! ## Requests as they arrive -/

/-- A request with the moment at which it arrives. -/
structure Arrival where
  now : Nat
  request : Request

namespace RateLimit

/-- The limit after an arrival. -/
def after (g : RateLimit) (a : Arrival) : RateLimit := (g.screen a.now a.request).1

/-- What an arrival is answered: nothing when it is let through. -/
def answer (g : RateLimit) (a : Arrival) : Result (Option Response) :=
  (g.screen a.now a.request).2

/-- The limit after some arrivals. -/
def run (g : RateLimit) (as : List Arrival) : RateLimit := as.foldl after g

/-- The charge that an arrival makes; none when nobody can be charged. -/
def charge? (payer : Payer) (a : Arrival) : Option Limiter.Charge :=
  (payer.token a.request).toOption.map fun token => ⟨token, a.now, Payer.charge⟩

variable {g : RateLimit} {s : RateSettings} {a : Arrival} {as : List Arrival} {token : String}

theorem charge?_eq (h : g.payer.token a.request = .ok token) :
    charge? g.payer a = some ⟨token, a.now, Payer.charge⟩ := by
  rw [charge?, h]
  rfl

theorem now_of_charge? {payer : Payer} {c : Limiter.Charge} (h : charge? payer a = some c) :
    c.now = a.now := by
  obtain ⟨token, -, rfl⟩ := Option.map_eq_some_iff.mp h
  rfl

/-- An arrival does not change who is charged. -/
theorem payer_after (g : RateLimit) (a : Arrival) : (g.after a).payer = g.payer := by
  unfold after screen
  split
  · rfl
  · rfl

theorem payer_run (g : RateLimit) (as : List Arrival) : (g.run as).payer = g.payer := by
  induction as generalizing g with
  | nil => rfl
  | cons a as ih => exact (ih (g.after a)).trans (payer_after g a)

/-- An arrival is one charge, or none. -/
theorem limiter_after (g : RateLimit) (a : Arrival) :
    (g.after a).limiter = g.limiter.run (charge? g.payer a).toList := by
  unfold after screen charge?
  cases g.payer.token a.request with
  | error => rfl
  | ok => rfl

/-- The limiter is charged for the arrivals in their order. -/
theorem limiter_run (g : RateLimit) (as : List Arrival) :
    (g.run as).limiter = g.limiter.run (as.filterMap (charge? g.payer)) := by
  induction as generalizing g with
  | nil => rfl
  | cons a as ih =>
    have hrest := ih (g.after a)
    rw [payer_after, limiter_after] at hrest
    show ((g.after a).run as).limiter = _
    rw [hrest, List.filterMap_cons]
    cases charge? g.payer a with
    | none => rfl
    | some c => rfl

/-- An arrival is answered by its token's bucket. -/
theorem answer_of_token (h : g.payer.token a.request = .ok token) :
    g.answer a = (g.limiter.answer ⟨token, a.now, Payer.charge⟩).map fun wait =>
      if wait = 0 then none else some (.tooMany "rate limit exceeded" (some wait)) := by
  unfold answer screen
  rw [h]
  rfl

/-- Where nobody can be charged, the error says what is missing in the request. -/
theorem error_of_token {payer : Payer} {r : Request} {e : Error} (h : payer.token r = .error e) :
    ∃ what, e = .mapping what := by
  cases payer with
  | clientIp =>
    simp only [Payer.token] at h
    split at h
    · cases h
    · cases h
      exact ⟨_, rfl⟩
  | requestHost =>
    simp only [Payer.token] at h
    split at h
    · cases h
    · cases h
      exact ⟨_, rfl⟩
  | header name =>
    simp only [Payer.token] at h
    split at h
    · cases h
    · cases h
      exact ⟨_, rfl⟩

/-- A limit starts without buckets, and its buckets hold a token at least. -/
theorem timely_of_make (h : RateLimit.make s = .ok g) (now : Nat) : g.limiter.Timely now := by
  obtain ⟨payer, -, h⟩ := Result.bind_eq_ok.mp h
  obtain ⟨rate, -, h⟩ := Result.bind_eq_ok.mp h
  cases h
  exact Limiter.timely_make rate _ _ now

/-- While the clock does not go back, no bucket was used later than now. -/
theorem timely_run {before : List Arrival} (h : RateLimit.make s = .ok g)
    (hordered : (before ++ [a]).Pairwise fun a b => a.now ≤ b.now) :
    (g.run before).limiter.Timely a.now := by
  obtain ⟨hbefore, -, hlast⟩ := List.pairwise_append.mp hordered
  rw [limiter_run]
  refine (timely_of_make h 0).run ?_ (Nat.zero_le _) ?_
  -- charges come when their arrivals do, so in the same order
  · refine List.pairwise_filterMap.mpr (hbefore.imp fun hle c hc d hd => ?_)
    rw [now_of_charge? hc, now_of_charge? hd]
    exact hle
  · intro c hc
    obtain ⟨b, hb, hcharge⟩ := List.mem_filterMap.mp hc
    rw [now_of_charge? hcharge]
    exact ⟨Nat.zero_le _, hlast b hb a List.mem_cons_self⟩

/-- An arrival cannot be charged to anybody, is let through, or has to wait. -/
theorem answer_cases (h : g.limiter.Timely a.now) :
    (∃ what, g.answer a = .error (.mapping what)) ∨ g.answer a = .ok none ∨
      ∃ token wait, g.payer.token a.request = .ok token ∧ 0 < wait ∧
        g.limiter.answer ⟨token, a.now, Payer.charge⟩ = .ok wait ∧
        g.answer a = .ok (some (.tooMany "rate limit exceeded" (some wait))) := by
  cases htoken : g.payer.token a.request with
  | error e =>
    obtain ⟨what, rfl⟩ := error_of_token htoken
    refine .inl ⟨what, ?_⟩
    unfold answer screen
    rw [htoken]
  | ok token =>
    right
    obtain ⟨wait, hwait⟩ := Limiter.Timely.exists_wait (c := ⟨token, a.now, Payer.charge⟩) h
      h.burst_pos
    rw [answer_of_token htoken, hwait]
    rcases Nat.eq_zero_or_pos wait with hzero | hpositive
    · left
      rw [hzero]
      rfl
    · right
      refine ⟨token, wait, rfl, hpositive, hwait, ?_⟩
      show Except.ok (if wait = 0 then none else _) = _
      rw [if_neg (by omega)]

/-- Arrivals of other payers are charged to other tokens. -/
theorem token_ne_of_charge? {payer : Payer} (h : ∀ a ∈ as, payer.token a.request ≠ .ok token) :
    ∀ c ∈ as.filterMap (charge? payer), c.token ≠ token := by
  intro c hc heq
  obtain ⟨b, hb, hcharge⟩ := List.mem_filterMap.mp hc
  obtain ⟨other, hother, rfl⟩ := Option.map_eq_some_iff.mp hcharge
  cases htoken : payer.token b.request with
  | error => rw [htoken] at hother; cases hother
  | ok t =>
    rw [htoken] at hother
    cases hother
    exact h b hb (by rw [htoken, ← heq])

/-- An arrival as late as told is let through. -/
theorem answer_again {b : Arrival} {wait : Nat} (h : g.limiter.Timely a.now)
    (ha : g.payer.token a.request = .ok token) (hb : g.payer.token b.request = .ok token)
    (hwait : g.limiter.answer ⟨token, a.now, Payer.charge⟩ = .ok wait) (hpositive : 0 < wait)
    (hothers : ∀ e ∈ as, g.payer.token e.request ≠ .ok token) (hlate : a.now + wait ≤ b.now) :
    (((g.after a).run as).answer b) = .ok none := by
  have hpayer : ((g.after a).run as).payer = g.payer := by rw [payer_run, payer_after]
  have hafter : (g.after a).limiter = g.limiter.after ⟨token, a.now, Payer.charge⟩ := by
    rw [limiter_after, charge?_eq ha]
    rfl
  have hothers' := token_ne_of_charge? hothers
  have hgranted := h.granted_again (d := ⟨token, b.now, Payer.charge⟩) hwait hpositive
    (by rw [Payer.charge, Nat.one_mul]; exact Rate.refillPeriod_le_longestWait _)
    hothers' rfl rfl hlate
  have htoken : ((g.after a).run as).payer.token b.request = .ok token := by rw [hpayer]; exact hb
  rw [answer_of_token htoken, limiter_run, payer_after, hafter, hgranted]
  rfl

/-- A limit on rates with any settings that it accepts, and requests that arrive one after another.
    No request is refused for asking for more than a bucket holds.  One that is told to wait is told
    so with status 429 and a number of seconds; and a request of the same payer that arrives so many
    seconds later, or later than that, is let through, unless that payer has asked in between. -/
theorem admitted_after_retry (h : RateLimit.make s = .ok g)
    (hordered : as.Pairwise fun a b => a.now ≤ b.now) :
    (∀ before a after, as = before ++ a :: after → ∀ requested capacity,
      (g.run before).answer a ≠ .error (.tokensExceedBurst requested capacity)) ∧
    ∀ before a after, as = before ++ a :: after → ∀ response,
      (g.run before).answer a = .ok (some response) →
        response.status = 429 ∧
        (∃ seconds : Nat, response.headers.get? "retry-after" = some (toString seconds)) ∧
        ∀ seconds : Nat, response.headers.get? "retry-after" = some (toString seconds) →
          ∀ between b rest, after = between ++ b :: rest →
            ∀ token, g.payer.token a.request = .ok token → g.payer.token b.request = .ok token →
            (∀ e ∈ between, g.payer.token e.request ≠ .ok token) →
            a.now + seconds * 1000000000 ≤ b.now →
              (g.run (before ++ a :: between)).answer b = .ok none := by
  -- at every arrival, the buckets are those of the arrivals before it
  have htimely : ∀ before a after, as = before ++ a :: after →
      (g.run before).limiter.Timely a.now := by
    rintro before a after rfl
    rw [List.append_cons] at hordered
    exact timely_run h (List.pairwise_append.mp hordered).1
  constructor
  · intro before a after heq requested capacity hburst
    obtain ⟨what, herror⟩ | hnone | ⟨token, wait, -, -, -, htold⟩ :=
      answer_cases (htimely before a after heq)
    · rw [herror] at hburst
      cases hburst
    · rw [hnone] at hburst
      cases hburst
    · rw [htold] at hburst
      cases hburst
  · intro before a after heq response hresponse
    have hnow := htimely before a after heq
    obtain ⟨what, herror⟩ | hnone | ⟨token, wait, htoken, hpositive, hwait, htold⟩ :=
      answer_cases hnow
    · rw [herror] at hresponse
      cases hresponse
    · rw [hnone] at hresponse
      cases hresponse
    · rw [htold] at hresponse
      cases hresponse
      have hheader := Response.get?_tooMany "rate limit exceeded" wait
      refine ⟨rfl, ⟨Response.toldSeconds wait, hheader⟩, ?_⟩
      intro seconds hseconds between b rest _ token' ha hb hothers hlate
      rw [payer_run] at htoken
      obtain rfl : token = token' := Except.ok.inj (htoken.symm.trans ha)
      -- the header can be read in one way only
      obtain rfl : Response.toldSeconds wait = seconds :=
        Response.seconds_inj (Option.some.inj (hheader.symm.trans hseconds))
      have htold := Response.le_toldSeconds wait
      have hrun : g.run (before ++ a :: between) = ((g.run before).after a).run between :=
        List.foldl_append
      rw [hrun]
      refine answer_again hnow (by rw [payer_run]; exact ha) (by rw [payer_run]; exact hb) hwait
        hpositive ?_ (by omega)
      rw [payer_run]
      exact hothers

/-- Three requests in ten seconds, and three at once, for each value of a header. -/
def strict : RateSettings := { payer := "request.header.key", requests := 3, periodSeconds := 10 }

/-- A request with this value of the header, so many milliseconds after the start. -/
def asking (key : String) (millis : Nat) : Arrival :=
  ⟨millis * 1000000, { headers := .ofList [("key", key)] }⟩

/-- The fourth request of one payer has to wait; meanwhile another asks. -/
def eager : List Arrival :=
  [asking "a" 0, asking "a" 0, asking "a" 100, asking "a" 1000, asking "b" 2000, asking "a" 5000]

/-- A token comes due in three and a third seconds.  The fourth request, made after one second, is
    told four, and is let through after five. -/
theorem admitted_after_retry_fourth :
    ∃ g, RateLimit.make strict = .ok g ∧ (eager.Pairwise fun a b => a.now ≤ b.now) ∧
      (g.run (eager.take 3)).answer (asking "a" 1000) =
        .ok (some (.tooMany "rate limit exceeded" (some 3333333333))) ∧
      (g.run (eager.take 5)).answer (asking "a" 5000) = .ok none := by
  have hmake : RateLimit.make strict =
      .ok ⟨strict, .header "key", .make ⟨3, 10000000000⟩ 3 usualCapacity⟩ := by decide
  have hordered : eager.Pairwise fun a b => a.now ≤ b.now := by decide
  obtain ⟨-, hretry⟩ := admitted_after_retry hmake hordered
  refine ⟨_, hmake, hordered, ?_⟩
  have htold : (RateLimit.run ⟨strict, .header "key", .make ⟨3, 10000000000⟩ 3 usualCapacity⟩
      (eager.take 3)).answer (asking "a" 1000) =
        .ok (some (.tooMany "rate limit exceeded" (some 3333333333))) := by rfl
  obtain ⟨-, -, hlater⟩ := hretry (eager.take 3) (asking "a" 1000) (eager.drop 4) rfl _ htold
  exact ⟨htold, hlater 4 rfl [asking "b" 2000] (asking "a" 5000) [] rfl "a" (by decide) (by decide)
    (by decide) (by decide)⟩

end RateLimit

end Turnpike.Gate
