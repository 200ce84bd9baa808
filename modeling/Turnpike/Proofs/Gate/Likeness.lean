/-
  What of a gate counts from some time on.

  Gates show what they are by what they say of requests.  A breaker holds two times, and a time that
  has passed may not count any more: in standby it waits for no deadline, and to look at its
  condition from some time past on is to look at it from now on.  So breakers that were built at
  different times need not be told apart.  This matters where the gates of a service are built anew,
  from the same values, and should go on as the old ones would have.

  1. **What counts** (`Instance.since`).  It is the gate with what does not count taken away, by a
     value that stands for all: no deadline in standby, and no time of the next look before now.
     Two gates are alike when this is the same of both.  Taking it away from a later time on forgets
     what was done from an earlier one (`since_since`).

  2. **Breakers** (`Breaker.screen_since`, `Breaker.settle_since`).  For each of the two calls: the
     answer depends on what counts, and what counts afterwards depends on what counted before.  This
     is where the phases are looked at.

  3. **Gates, and all later calls** (`verdicts_since`).  Gates that agree in what counts say the
     same of all requests that come later, however they are called.  The times of the calls must not
     go back, as what did not count at one of them might at an earlier one.

  4. **Chains of gates** (`Hooks.Respects`).  A visit only asks its gates.  So a relation on their
     states that every single question respects is respected by visits, and likeness is one
     (`respects_alike`).
-/
import Turnpike.Proofs.Gate.Plaza
import Turnpike.Proofs.Gate.Visit

namespace Turnpike

open Turnpike.Http

/-! ## Breakers -/

namespace Breaker

variable {b : Breaker} {now later : Nat}

/-- What of a breaker counts from `now` on. -/
def since (now : Nat) (b : Breaker) : Breaker :=
  { b with
    deadline := if b.phase = .standby then 0 else b.deadline
    nextCheck := max b.nextCheck now }

/-- In standby no deadline counts, and otherwise it is the deadline that there is. -/
theorem deadline_since (b : Breaker) (now : Nat) :
    (if b.phase = .standby then 0 else (b.since now).deadline) =
      if b.phase = .standby then 0 else b.deadline := by
  unfold since
  split
  · rfl
  · rfl

/-- From a later time on, it makes no difference from what earlier time on the breaker counted. -/
theorem since_since (h : now ≤ later) : (b.since now).since later = b.since later := by
  have hcheck : max (max b.nextCheck now) later = max b.nextCheck later := by omega
  calc (b.since now).since later
      = { b with
          deadline := if b.phase = .standby then 0 else (b.since now).deadline
          nextCheck := max (max b.nextCheck now) later } := rfl
    _ = b.since later := by rw [deadline_since, hcheck]; rfl

/-- When a breaker is asked, it does not mind when it will look at its condition again. -/
theorem screen_nextCheck (b : Breaker) (n now : Nat) :
    ({ b with nextCheck := n } : Breaker).screen now =
      ({ (b.screen now).1 with nextCheck := n }, (b.screen now).2) := by
  have hroom : ({ b with nextCheck := n } : Breaker).hasRoom now = b.hasRoom now := rfl
  obtain ⟨settings, condition, fallback, phase, deadline, check, stats, allowed, denied⟩ := b
  unfold screen
  -- no phase looks at that time
  cases phase with
  | standby => rfl
  | tripped =>
    dsimp only
    split
    · rfl
    · rfl
  | recovering =>
    dsimp only at hroom ⊢
    rw [hroom]
    split
    · rfl
    · split
      · rfl
      · rfl

theorem nextCheck_screen (b : Breaker) (now : Nat) : (b.screen now).1.nextCheck = b.nextCheck := by
  have h := screen_nextCheck b b.nextCheck now
  exact congrArg (·.1.nextCheck) h

/-- What a breaker does when it is asked depends on what of it counts. -/
theorem screen_since (h : now ≤ later) :
    ((b.since now).screen later).2 = (b.screen later).2 ∧
      ((b.since now).screen later).1.since later = (b.screen later).1.since later := by
  by_cases hstandby : b.phase = .standby
  -- in standby a request passes, and no deadline counts before or after
  · have hsince : (b.since now).phase = .standby := hstandby
    unfold screen
    rw [hsince, hstandby]
    exact ⟨rfl, since_since h⟩
  · -- the deadline counts, and the time of the next look stays
    have heq : b.since now = { b with nextCheck := max b.nextCheck now } := by
      unfold since
      rw [if_neg hstandby]
    rw [heq, screen_nextCheck]
    refine ⟨rfl, ?_⟩
    have hcheck : max (max b.nextCheck now) later = max (b.screen later).1.nextCheck later := by
      rw [nextCheck_screen]
      omega
    unfold since
    dsimp only
    rw [hcheck]

/-- Before the time to look, a round trip is counted and nothing else. -/
theorem settle_of_early {o : Outcome} {latency : Nat} (h : now < b.nextCheck) :
    b.settle now o latency = { b with stats := b.stats.record o latency } := by
  unfold settle
  dsimp only
  rw [if_pos h]

/-- When it is time, the condition decides. -/
theorem settle_of_due {o : Outcome} {latency : Nat} (h : b.nextCheck ≤ now) :
    b.settle now o latency =
      if b.phase = .tripped ∨ b.condition.holds (b.stats.record o latency) = false then
        { b with
          stats := b.stats.record o latency, nextCheck := now + nanos b.settings.checkMillis }
      else
        { b with
          phase := .tripped, deadline := now + nanos b.settings.fallbackMillis, stats := {}
          nextCheck := now + nanos b.settings.checkMillis } := by
  unfold settle
  dsimp only
  rw [if_neg (Nat.not_lt_of_le h)]

/-- What a breaker does when it is told of a request depends on what of it counts. -/
theorem settle_since (h : now ≤ later) (o : Outcome) (latency : Nat) :
    ((b.since now).settle later o latency).since later =
      (b.settle later o latency).since later := by
  -- whether it is time to look is the same for both, as the call comes later
  rcases Nat.lt_or_ge later b.nextCheck with hearly | hdue
  · have hearly' : later < (b.since now).nextCheck :=
      Nat.lt_of_lt_of_le hearly (Nat.le_max_left _ _)
    have hsame : ({ b with stats := b.stats.record o latency } : Breaker).since now =
        { b.since now with stats := b.stats.record o latency } := rfl
    rw [settle_of_early hearly', settle_of_early hearly]
    show Breaker.since later { b.since now with stats := b.stats.record o latency } = _
    rw [← hsame, since_since h]
  · have hdue' : (b.since now).nextCheck ≤ later := Nat.max_le.mpr ⟨hdue, h⟩
    rw [settle_of_due hdue', settle_of_due hdue]
    show Breaker.since later (if b.phase = .tripped ∨
      b.condition.holds (b.stats.record o latency) = false then _ else _) = _
    split
    · have hdeadline := deadline_since b now
      unfold since at hdeadline ⊢
      dsimp only at hdeadline ⊢
      rw [hdeadline]
    · rfl

end Breaker

namespace Gate

/-! ## Gates -/

namespace Instance

variable {g : Instance} {now later : Nat}

/-- What of a gate counts from `now` on. -/
def since (now : Nat) : Instance → Instance
  | .breaker b => .breaker (b.since now)
  | g => g

/-- The same of gates: from a later time on, an earlier one makes no difference. -/
theorem since_since (h : now ≤ later) (g : Instance) :
    (g.since now).since later = g.since later := by
  cases g with
  | breaker b => exact congrArg Instance.breaker (Breaker.since_since h)
  | _ => rfl

/-- What a gate says depends on what of it counts. -/
theorem verdict_since (h : now ≤ later) (g : Instance) (r : Request) :
    (g.since now).verdict later r = g.verdict later r := by
  cases g with
  | breaker b =>
    obtain ⟨hpasses, hsince⟩ := Breaker.screen_since (b := b) h
    have hfallback : ((b.since now).screen later).1.fallback = (b.screen later).1.fallback := by
      show (((b.since now).screen later).1.since later).fallback = _
      rw [hsince]
      rfl
    show Except.ok (if ((b.since now).screen later).2 then none else some _) = _
    rw [hpasses, hfallback]
    rfl
  | _ => rfl

/-- What counts after a gate is asked depends on what counted before. -/
theorem screened_since (h : now ≤ later) (g : Instance) (r : Request) :
    ((g.since now).screened later r).since later = (g.screened later r).since later := by
  cases g with
  | breaker b => exact congrArg Instance.breaker (Breaker.screen_since h).2
  | _ => rfl

/-- So does what counts after it is told of a request that has ended. -/
theorem settled_since (h : now ≤ later) (g : Instance) (r : Request) (o : Option Outcome) :
    ((g.since now).settled later r o).since later = (g.settled later r o).since later := by
  cases g with
  | breaker b =>
    cases o with
    | none => exact congrArg Instance.breaker (Breaker.since_since h)
    | some o => exact congrArg Instance.breaker (Breaker.settle_since h o r.age)
  | _ => rfl

theorem target_since (now : Nat) (g : Instance) (r : Request) (u : Uri) :
    (g.since now).target r u = g.target r u := by
  cases g <;> rfl

/-- What a gate counts of its verdicts depends on the verdicts. -/
theorem marks_since {a : Ambient} (h : now ≤ a.now) (g : Instance) (r : Request) :
    (g.since now).marks r a = g.marks r a := by
  have hverdict := verdict_since h g r
  cases g with
  | breaker b => exact congrArg (a.countAnswer "circuit_breaker") hverdict
  | _ => rfl

theorem tells_since (now : Nat) (g : Instance) (o : Option Outcome) (a : Ambient) :
    (g.since now).tells o a = g.tells o a := by
  cases g <;> rfl

/-! ## Gates that are called -/

/-- A call of a gate: for a request, or for one that has ended. -/
inductive Call where
  | screen (r : Request)
  | settle (r : Request) (o : Option Outcome)

/-- What a gate says in some calls, each with its time, one after the other. -/
def verdicts (g : Instance) : List (Nat × Call) → List Verdict
  | [] => []
  | (now, .screen r) :: cs => g.verdict now r :: (g.screened now r).verdicts cs
  | (now, .settle r o) :: cs => (g.settled now r o).verdicts cs

/-- What a gate says in later calls depends on what of it counts. -/
theorem verdicts_since {cs : List (Nat × Call)} (hlater : ∀ c ∈ cs, now ≤ c.1)
    (hordered : cs.Pairwise fun c d => c.1 ≤ d.1) : (g.since now).verdicts cs = g.verdicts cs := by
  induction cs generalizing g now with
  | nil => rfl
  | cons c cs ih =>
    obtain ⟨time, call⟩ := c
    obtain ⟨hfirst, hordered⟩ := List.pairwise_cons.mp hordered
    have htime : now ≤ time := hlater (time, call) List.mem_cons_self
    -- what counts is the same, so the induction applies to both
    have hrest {g g' : Instance} (h : g.since time = g'.since time) :
        g.verdicts cs = g'.verdicts cs := by
      rw [← ih hfirst hordered, h, ih hfirst hordered]
    cases call with
    | screen r =>
      unfold verdicts
      rw [verdict_since htime, hrest (screened_since htime g r)]
    | settle r o => exact hrest (settled_since htime g r o)

end Instance

/-! ## Gates that share a state -/

variable {ι σ : Type}

/-- Related states make no difference to what the gates say, and stay related. -/
structure Hooks.Respects (h : Hooks ι σ) (R : σ → σ → Prop) : Prop where
  screen : ∀ n r s s', R s s' →
    (h.screen n r s).2 = (h.screen n r s').2 ∧ R (h.screen n r s).1 (h.screen n r s').1
  retarget : ∀ n r u s s', R s s' →
    (h.retarget n r u s).2 = (h.retarget n r u s').2 ∧
      R (h.retarget n r u s).1 (h.retarget n r u s').1
  settle : ∀ n r o s s', R s s' → R (h.settle n r o s) (h.settle n r o s')

namespace Hooks.Respects

open Pipeline

variable {h : Hooks ι σ} {R : σ → σ → Prop} {s s' : σ}

/-- Gates that are asked one after the other say the same, and leave related states. -/
theorem ask (hr : h.Respects R) (hs : R s s') (p : Pipeline ι) (gates : List (Entry ι)) :
    (p.ask h s gates).1 = (p.ask h s' gates).1 ∧
      (p.ask h s gates).2.2 = (p.ask h s' gates).2.2 ∧
      R (p.ask h s gates).2.1 (p.ask h s' gates).2.1 := by
  induction gates generalizing p s s' with
  | nil => exact ⟨rfl, rfl, hs⟩
  | cons e gates ih =>
    obtain ⟨hverdict, hstate⟩ := hr.screen e.gate p.request s s' hs
    rcases hx : h.screen e.gate p.request s with ⟨x, v⟩
    rcases hy : h.screen e.gate p.request s' with ⟨y, w⟩
    rw [hx, hy] at hverdict hstate
    -- the verdict is the same, so both go on or both stop
    obtain rfl : v = w := hverdict
    rcases v with err | resp | resp
    · rw [ask_of_error hx, ask_of_error hy]
      exact ⟨rfl, rfl, hstate⟩
    · rw [ask_of_admission hx, ask_of_admission hy]
      exact ih hstate _
    · rw [ask_of_answer hx, ask_of_answer hy]
      exact ⟨rfl, rfl, hstate⟩

/-- So do those that are asked where the request should go. -/
theorem retargetBy (hr : h.Respects R) (hs : R s s') (r : Request) (u : Uri)
    (gates : List (Entry ι)) :
    (Pipeline.retargetBy h r s u gates).2 = (Pipeline.retargetBy h r s' u gates).2 ∧
      R (Pipeline.retargetBy h r s u gates).1 (Pipeline.retargetBy h r s' u gates).1 := by
  induction gates generalizing s s' u with
  | nil => exact ⟨rfl, hs⟩
  | cons e gates ih =>
    obtain ⟨htarget, hstate⟩ := hr.retarget e.gate r u s s' hs
    rcases hx : h.retarget e.gate r u s with ⟨x, v⟩
    rcases hy : h.retarget e.gate r u s' with ⟨y, w⟩
    rw [hx, hy] at htarget hstate
    obtain rfl : v = w := htarget
    cases v with
    | error err =>
      rw [retargetBy_of_error hx, retargetBy_of_error hy]
      exact ⟨rfl, hstate⟩
    | ok v =>
      rw [retargetBy_of_ok hx, retargetBy_of_ok hy]
      exact ih hstate v

/-- And so do those that are left. -/
theorem leave (hr : h.Respects R) (hs : R s s') (p : Pipeline ι) :
    R (p.leave h s) (p.leave h s') := by
  unfold Pipeline.leave
  induction p.passed.reverse generalizing s s' with
  | nil => exact hs
  | cons e gates ih => exact ih (hr.settle e.gate p.request p.outcome s s' hs)

/-- A visit comes to the same from related states. -/
theorem visit (hr : h.Respects R) (hs : R s s') (t : Pipeline ι) (u : Uri) :
    (t.visit h s u).1 = (t.visit h s' u).1 ∧ (t.visit h s u).2.2 = (t.visit h s' u).2.2 ∧
      R (t.visit h s u).2.1 (t.visit h s' u).2.1 := by
  obtain ⟨hpipeline, hverdict, hstate⟩ := hr.ask hs t (t.entries.drop t.admitted)
  unfold Pipeline.visit Pipeline.process
  rcases hx : t.ask h s (t.entries.drop t.admitted) with ⟨t₁, x, v⟩
  rcases hy : t.ask h s' (t.entries.drop t.admitted) with ⟨t₂, y, w⟩
  rw [hx, hy] at hpipeline hverdict hstate
  obtain rfl : t₁ = t₂ := hpipeline
  obtain rfl : v = w := hverdict
  rcases v with err | resp | resp
  · exact ⟨rfl, rfl, hstate⟩
  -- the request passes all gates, and they are asked where it should go
  · obtain ⟨htarget, hlast⟩ := hr.retargetBy hstate t₁.request u t₁.passed
    unfold Pipeline.retarget
    dsimp only at htarget hlast ⊢
    rcases hx' : Pipeline.retargetBy h t₁.request x u t₁.passed with ⟨x', v⟩
    rcases hy' : Pipeline.retargetBy h t₁.request y u t₁.passed with ⟨y', w⟩
    rw [hx', hy'] at htarget hlast
    obtain rfl : v = w := htarget
    cases v with
    | error err => exact ⟨rfl, rfl, hlast⟩
    | ok v => exact ⟨rfl, rfl, hlast⟩
  · exact ⟨rfl, rfl, hstate⟩

end Hooks.Respects

/-! ## Gates on plazas -/

/-- Values that agree in what `f` shows are both missing, or both there. -/
theorem cases_of_map_eq {α β : Type} {f : α → β} {x y : Option α} (h : x.map f = y.map f) :
    (x = none ∧ y = none) ∨ ∃ a b, x = some a ∧ y = some b ∧ f a = f b := by
  cases x with
  | none => exact .inl ⟨rfl, Option.map_eq_none_iff.mp h.symm⟩
  | some a =>
    obtain ⟨b, hb, heq⟩ := Option.map_eq_some_iff.mp h.symm
    exact .inr ⟨a, b, rfl, hb, heq.symm⟩

/-- Plazas that share the same, and whose gates agree in all that counts from now on. -/
structure Plaza.Alike (now : Nat) (p q : Plaza) : Prop where
  ambient : p.toAmbient = q.toAmbient
  time : p.now = now
  gates : ∀ n, (p.gate? n).map (Instance.since now) = (q.gate? n).map (Instance.since now)

/-- Counting takes no time. -/
theorem Instance.now_marks (g : Instance) (r : Request) (a : Ambient) :
    (g.marks r a).now = a.now := by
  have hcount (reason : String) (v : Verdict) : (a.countAnswer reason v).now = a.now := by
    unfold Ambient.countAnswer
    split <;> rfl
  cases g with
  | rate => exact hcount _ _
  | flight => exact hcount _ _
  | retarget => rfl
  | breaker => exact hcount _ _
  | probe => rfl

theorem Instance.now_tells (g : Instance) (o : Option Outcome) (a : Ambient) :
    (g.tells o a).now = a.now := by
  cases g <;> rfl

namespace Plaza

/-- Asking takes none. -/
theorem now_screen (n : Serial) (r : Request) (p : Plaza) : (p.screen n r).1.now = p.now := by
  show (p.screen n r).1.toAmbient.now = _
  rw [toAmbient_screen]
  cases p.gate? n with
  | none => rfl
  | some g => exact g.now_marks r p.toAmbient

/-- Nor does settling. -/
theorem now_settle (n : Serial) (r : Request) (o : Option Outcome) (p : Plaza) :
    (p.settle n r o).now = p.now := by
  show (p.settle n r o).toAmbient.now = _
  rw [toAmbient_settle]
  cases p.gate? n with
  | none => rfl
  | some g => exact g.now_tells o p.toAmbient

/-- What depends on what counts of a gate is the same. -/
theorem Alike.elim_eq {now : Nat} {p q : Plaza} {β : Type} (h : p.Alike now q) (n : Serial) (d : β)
    {f : Instance → β} (hf : ∀ g : Instance, f (g.since now) = f g) :
    (p.gate? n).elim d f = (q.gate? n).elim d f := by
  rcases cases_of_map_eq (h.gates n) with ⟨hp, hq⟩ | ⟨g, g', hp, hq, heq⟩
  · rw [hp, hq]
  · rw [hp, hq, Option.elim_some, Option.elim_some, ← hf g, heq, hf g']

/-- Gates that are called alike stay alike. -/
theorem Alike.called {now : Nat} {p q p' q' : Plaza} (h : p.Alike now q)
    {f : Serial → Instance → Instance} (hambient : p'.toAmbient = q'.toAmbient)
    (htime : p'.now = p.now) (hp : ∀ n, p'.gate? n = (p.gate? n).map (f n))
    (hq : ∀ n, q'.gate? n = (q.gate? n).map (f n))
    (hf : ∀ n g, (f n (Instance.since now g)).since now = (f n g).since now) :
    p'.Alike now q' where
  ambient := hambient
  time := htime.trans h.time
  gates := by
    intro n
    rw [hp, hq]
    rcases cases_of_map_eq (h.gates n) with ⟨hp, hq⟩ | ⟨g, g', hp, hq, heq⟩
    · rw [hp, hq]
    · rw [hp, hq]
      simp only [Option.map_some]
      rw [← hf n g, heq, hf n g']

end Plaza

/-- What gates say, and what they come to, depends on what of them counts. -/
theorem respects_alike (now : Nat) : Plaza.hooks.Respects (Plaza.Alike now) where
  screen := by
    intro n r p q h
    have hp : p.now = now := h.time
    have hq : q.now = now := (congrArg Ambient.now h.ambient).symm.trans hp
    have hambient : (p.screen n r).1.toAmbient = (q.screen n r).1.toAmbient := by
      rw [Plaza.toAmbient_screen, Plaza.toAmbient_screen, ← h.ambient]
      exact h.elim_eq n _ fun g => Instance.marks_since (Nat.le_of_eq hp.symm) g r
    refine ⟨?_, h.called hambient (p.now_screen n r) (Plaza.gate?_screen n · r p) ?_ ?_⟩
    · show (p.screen n r).2 = (q.screen n r).2
      rw [Plaza.screen_snd, Plaza.screen_snd, hp, hq]
      exact h.elim_eq n _ fun g => Instance.verdict_since (Nat.le_refl now) g r
    · intro m
      rw [hp, ← hq]
      exact Plaza.gate?_screen n m r q
    · -- only the gate that is asked changes
      intro m g
      rw [hp]
      split
      · exact Instance.screened_since (Nat.le_refl now) g r
      · exact Instance.since_since (Nat.le_refl now) g
  retarget := by
    intro n r u p q h
    show (p.retarget n r u).2 = (q.retarget n r u).2 ∧
      (p.retarget n r u).1.Alike now (q.retarget n r u).1
    rw [Plaza.retarget_fst, Plaza.retarget_fst, Plaza.retarget_snd, Plaza.retarget_snd]
    exact ⟨h.elim_eq n _ fun g => g.target_since now r u, h⟩
  settle := by
    intro n r o p q h
    have hp : p.now = now := h.time
    have hq : q.now = now := (congrArg Ambient.now h.ambient).symm.trans hp
    have hambient : (p.settle n r o).toAmbient = (q.settle n r o).toAmbient := by
      rw [Plaza.toAmbient_settle, Plaza.toAmbient_settle, ← h.ambient]
      exact h.elim_eq n _ fun g => g.tells_since now o p.toAmbient
    refine h.called hambient (p.now_settle n r o) (Plaza.gate?_settle n · r o p) ?_ ?_
    · intro m
      rw [hp, ← hq]
      exact Plaza.gate?_settle n m r o q
    · intro m g
      rw [hp]
      split
      · exact Instance.settled_since (Nat.le_refl now) g r o
      · exact Instance.since_since (Nat.le_refl now) g

end Gate

end Turnpike
