/-
  The times of a breaker.

  A breaker does nothing by itself: it moves to another phase only when it is called, for a request
  or for one that has ended.  So times at which it opens or recovers cannot be told from its
  settings, only bounded by them, and the bounds are on the calls at which things happen.  The calls
  come in the order of their times, which may be equal.  What a condition makes of the counters is
  not known here.

  1. **Moves** (`Move`).  All that a call can do, with its guards, is said once, in ten ways
     (`move_call`); what follows never opens the definitions again.  What it says of the phases is
     that they change in three ways, which have names (`Looks` with a trip, `Opens`, `Closes`).

  2. **Runs** (`Run`).  A run keeps its moments: each is a call with the breaker before and after
     it, and the move that it was.  It may be taken apart anywhere (`Run.split`), so that what is
     shown of the moments between two others needs no invariant of its own.

  3. **Since a trip** (`Stage`).  This is the invariant of the phases.  Until the time of the
     fallback is over the breaker is tripped; a request that comes later makes it recover, and the
     recovery lasts from the time of that request on; one that comes when this is over too closes
     it.  A breaker that trips again is back at the first stage, with a later deadline.

  4. **Counters and checks** (`Run.stats_eq`, `Run.nextCheck_le`).  The counters are those of the
     round trips since the last trip, and the time of the next look never goes back.

  From these come the bounds on the times of what happens (`timing`).
-/
import Mathlib.Data.List.DropRight
import Turnpike.Proofs.Gate.Plaza
import Turnpike.Proofs.Lists
import Turnpike.Proofs.Result
import Turnpike.Proofs.Stats

namespace Turnpike.Breaker

open Turnpike.Gate Turnpike.Http

/-! ## Calls -/

/-- A call of a breaker: for a request, or for one that has ended, how and after what time. -/
inductive Call where
  | request
  | response (outcome : Option Outcome) (latency : Nat)

/-- What a call makes of a breaker, and whether a request passes. -/
def call (b : Breaker) (now : Nat) : Call → Breaker × Bool
  | .request => b.screen now
  | .response (some o) latency => (b.settle now o latency, false)
  | .response none _ => (b, false)

/-- All that a call can do. -/
inductive Move (b : Breaker) (now : Nat) : Call → Breaker → Bool → Prop where
  | passes (standby : b.phase = .standby) : Move b now .request b true
  | blocked (tripped : b.phase = .tripped) (early : now < b.deadline) : Move b now .request b false
  | opens (tripped : b.phase = .tripped) (past : b.deadline ≤ now) :
      Move b now .request
        { b with
            phase := .recovering, deadline := now + nanos b.settings.recoveryMillis
            allowed := 0, denied := 0 } false
  | closes (recovering : b.phase = .recovering) (past : b.deadline ≤ now) :
      Move b now .request { b with phase := .standby, deadline := now } true
  | allowed (recovering : b.phase = .recovering) (early : now < b.deadline)
      (room : b.hasRoom now = true) :
      Move b now .request { b with allowed := b.allowed + 1 } true
  | denied (recovering : b.phase = .recovering) (early : now < b.deadline)
      (full : b.hasRoom now = false) :
      Move b now .request { b with denied := b.denied + 1 } false
  | abandoned (latency : Nat) : Move b now (.response none latency) b false
  | records (o : Outcome) (latency : Nat) (early : now < b.nextCheck) :
      Move b now (.response (some o) latency)
        { b with stats := b.stats.record o latency } false
  | rests (o : Outcome) (latency : Nat) (due : b.nextCheck ≤ now)
      (still : b.phase = .tripped ∨ b.condition.holds (b.stats.record o latency) = false) :
      Move b now (.response (some o) latency)
        { b with
            stats := b.stats.record o latency
            nextCheck := now + nanos b.settings.checkMillis } false
  | trips (o : Outcome) (latency : Nat) (due : b.nextCheck ≤ now) (untripped : b.phase ≠ .tripped)
      (holds : b.condition.holds (b.stats.record o latency) = true) :
      Move b now (.response (some o) latency)
        { b with
            phase := .tripped, deadline := now + nanos b.settings.fallbackMillis, stats := {}
            nextCheck := now + nanos b.settings.checkMillis } false

/-- Every call is one of these moves. -/
theorem move_call (b : Breaker) (now : Nat) (c : Call) :
    Move b now c (b.call now c).1 (b.call now c).2 := by
  cases c with
  | request =>
    show Move b now .request (b.screen now).1 (b.screen now).2
    unfold screen
    split
    case h_1 standby => exact .passes standby
    case h_2 tripped =>
      split
      case isTrue past => exact .opens tripped past
      case isFalse early => exact .blocked tripped (Nat.lt_of_not_le early)
    case h_3 recovering =>
      split
      case isTrue past => exact .closes recovering past
      case isFalse early =>
        have early := Nat.lt_of_not_le early
        split
        case isTrue room => exact .allowed recovering early room
        case isFalse full => exact .denied recovering early (Bool.not_eq_true _ ▸ full)
  | response o latency =>
    cases o with
    | none => exact .abandoned latency
    | some o =>
      show Move b now _ (b.settle now o latency) false
      unfold settle
      simp only
      split
      case isTrue early => exact .records o latency early
      case isFalse due =>
        have due := Nat.le_of_not_lt due
        split
        case isTrue still => exact .rests o latency due still
        case isFalse hnot =>
          rw [not_or, Bool.not_eq_false] at hnot
          exact .trips o latency due hnot.1 hnot.2

/-! ## What a call does -/

/-- Does the breaker trip? -/
def newlyTripped (b b' : Breaker) : Bool := b.phase != .tripped && b'.phase == .tripped

/-- The condition is looked at: a request has ended and was not abandoned, it is time, and the breaker
    is not tripped anyway. -/
structure Looks (b : Breaker) (now : Nat) (c : Call) : Prop where
  ended : ∃ o latency, c = .response (some o) latency
  due : b.nextCheck ≤ now
  untripped : b.phase ≠ .tripped

/-- A tripped breaker is asked, gives the fallback, and recovers from then on. -/
structure Opens (b : Breaker) (c : Call) (b' : Breaker) (passed : Bool) : Prop where
  call_eq : c = .request
  denied : passed = false
  before_eq : b.phase = .tripped
  after_eq : b'.phase = .recovering

/-- A recovering breaker is asked, lets the request pass, and has recovered. -/
structure Closes (b : Breaker) (c : Call) (b' : Breaker) (passed : Bool) : Prop where
  call_eq : c = .request
  passed : passed = true
  before_eq : b.phase = .recovering
  after_eq : b'.phase = .standby

/-- The round trip that a call is about. -/
def Call.roundTrip? : Call → Option RoundTrip
  | .response (some o) latency => some (o, latency)
  | _ => none

theorem newlyTripped_iff {b b' : Breaker} :
    newlyTripped b b' = true ↔ b.phase ≠ .tripped ∧ b'.phase = .tripped := by
  rw [newlyTripped, Bool.and_eq_true, bne_iff_ne, beq_iff_eq]

namespace Move

variable {b b' : Breaker} {now : Nat} {c : Call} {p : Bool}

theorem settings_eq (h : Move b now c b' p) : b'.settings = b.settings := by
  cases h <;> rfl

theorem condition_eq (h : Move b now c b' p) : b'.condition = b.condition := by
  cases h <;> rfl

theorem fallback_eq (h : Move b now c b' p) : b'.fallback = b.fallback := by
  cases h <;> rfl

/-- The time of the next look never goes back. -/
theorem nextCheck_le (h : Move b now c b' p) : b.nextCheck ≤ b'.nextCheck := by
  cases h with
  | rests _ _ due => exact Nat.le_trans due (Nat.le_add_right _ _)
  | trips _ _ due => exact Nat.le_trans due (Nat.le_add_right _ _)
  | _ => exact Nat.le_refl _

/-- After a look, the next one comes when a check period is over. -/
theorem nextCheck_eq (h : Move b now c b' p) (hlooks : Looks b now c) :
    b'.nextCheck = now + nanos b.settings.checkMillis := by
  obtain ⟨⟨o, latency, hcall⟩, hdue, -⟩ := hlooks
  cases h with
  | records _ _ early => exact absurd hdue (Nat.not_le_of_lt early)
  | rests => rfl
  | trips => rfl
  | _ => cases hcall

/-- Another phase is entered in three ways. -/
theorem changes (h : Move b now c b' p) (hne : b'.phase ≠ b.phase) :
    (Looks b now c ∧ newlyTripped b b' = true) ∨ Opens b c b' p ∨ Closes b c b' p := by
  cases h with
  | opens tripped => exact .inr (.inl ⟨rfl, rfl, tripped, rfl⟩)
  | closes recovering => exact .inr (.inr ⟨rfl, rfl, recovering, rfl⟩)
  | trips o latency due untripped =>
    exact .inl ⟨⟨⟨o, latency, rfl⟩, due, untripped⟩, newlyTripped_iff.mpr ⟨untripped, rfl⟩⟩
  | _ => exact absurd rfl hne

/-- Where the condition is looked at, it decides whether the breaker trips. -/
theorem holds_of_looks {o : Outcome} {latency : Nat} (h : Move b now (.response (some o) latency) b' p)
    (hlooks : Looks b now (.response (some o) latency)) :
    newlyTripped b b' = true ↔ b.condition.holds (b.stats.record o latency) = true := by
  rw [newlyTripped_iff, and_iff_right hlooks.untripped]
  cases h with
  | records _ _ early => exact absurd hlooks.due (Nat.not_le_of_lt early)
  -- it is not tripped, so it has come to rest because the condition does not hold
  | rests _ _ _ still =>
    have hfalse := still.resolve_left hlooks.untripped
    simp [hfalse, hlooks.untripped]
  | trips _ _ _ _ holds => simp [holds]

/-- A tripped breaker lets nothing pass. -/
theorem untripped_of_passed (h : Move b now c b' true) : b.phase ≠ .tripped := by
  intro htripped
  cases h with
  | passes standby => cases htripped.symm.trans standby
  | closes recovering => cases htripped.symm.trans recovering
  | allowed recovering => cases htripped.symm.trans recovering

/-- Within a phase the deadline stays. -/
theorem deadline_of_same (h : Move b now c b' p) (hsame : b'.phase = b.phase) :
    b'.deadline = b.deadline := by
  cases h with
  | opens tripped => cases hsame.trans tripped
  | closes recovering => cases hsame.trans recovering
  | trips _ _ _ untripped => exact absurd hsame.symm untripped
  | _ => rfl

/-- The deadline of a trip is the end of the fallback. -/
theorem deadline_of_trips (h : Move b now c b' p) (htrips : newlyTripped b b' = true) :
    b'.deadline = now + nanos b.settings.fallbackMillis := by
  obtain ⟨hbefore, hafter⟩ := newlyTripped_iff.mp htrips
  cases h with
  | trips => rfl
  | opens => cases hafter
  | closes => cases hafter
  | _ => exact absurd hafter hbefore

/-- Recovery begins when the time of the fallback is over, and takes its own time from then on. -/
theorem deadlines_of_opens (h : Move b now c b' p) (hopens : Opens b c b' p) :
    b.deadline ≤ now ∧ b'.deadline = now + nanos b.settings.recoveryMillis := by
  obtain ⟨-, -, hbefore, hafter⟩ := hopens
  cases h with
  | opens _ past => exact ⟨past, rfl⟩
  | closes => cases hafter
  | trips => cases hafter
  | _ => cases hbefore.symm.trans hafter

/-- A recovery is over when its deadline has come. -/
theorem deadline_of_closes (h : Move b now c b' p) (hcloses : Closes b c b' p) :
    b.deadline ≤ now := by
  obtain ⟨-, -, hbefore, hafter⟩ := hcloses
  cases h with
  | closes _ past => exact past
  | opens => cases hafter
  | trips => cases hafter
  | _ => cases hbefore.symm.trans hafter

/-- A trip sets the counters back. -/
theorem stats_of_trips (h : Move b now c b' p) (htrips : newlyTripped b b' = true) :
    b'.stats = {} := by
  obtain ⟨hbefore, hafter⟩ := newlyTripped_iff.mp htrips
  cases h with
  | trips => rfl
  | opens => cases hafter
  | closes => cases hafter
  | _ => exact absurd hafter hbefore

/-- Otherwise the round trip is counted, if there was one. -/
theorem stats_of_not_trips (h : Move b now c b' p) (hnot : ¬ newlyTripped b b' = true) :
    b'.stats = c.roundTrip?.elim b.stats fun t => b.stats.record t.1 t.2 := by
  cases h with
  | trips _ _ _ untripped => exact absurd (newlyTripped_iff.mpr ⟨untripped, rfl⟩) hnot
  -- what is recorded stays folded, or the kernel computes with it
  | records => rw [Call.roundTrip?, Option.elim_some]
  | rests => rw [Call.roundTrip?, Option.elim_some]
  | _ => rfl

/-- Where the condition is not looked at, it does not matter. -/
theorem indifferent (h : Move b now c b' p) (hlooks : ¬ Looks b now c) (d : Condition) :
    ({ b with condition := d }.call now c).1 = { b' with condition := d } := by
  cases h with
  | passes standby => simp [call, screen, standby]
  | blocked tripped early => simp [call, screen, tripped, Nat.not_le_of_lt early]
  | opens tripped past => simp [call, screen, tripped, past]
  | closes recovering past => simp [call, screen, recovering, past]
  | allowed recovering early room =>
    have room (q : Phase) : { b with condition := d, phase := q }.hasRoom now = true := room
    simp [call, screen, recovering, Nat.not_le_of_lt early, room]
  | denied recovering early full =>
    have full (q : Phase) : { b with condition := d, phase := q }.hasRoom now = false := full
    simp [call, screen, recovering, Nat.not_le_of_lt early, full]
  | abandoned => rfl
  | records o latency early => simp [call, settle, early]
  -- it is time to look, so only a tripped breaker would not
  | rests o latency due =>
    have tripped : b.phase = .tripped := by
      by_contra hphase
      exact hlooks ⟨⟨o, latency, rfl⟩, due, hphase⟩
    simp [call, settle, Nat.not_lt_of_le due, tripped]
  | trips o latency due untripped => exact absurd ⟨⟨o, latency, rfl⟩, due, untripped⟩ hlooks

end Move

/-! ## Breakers as gates -/

/-- To ask a gate that is a breaker is to call it for a request; one that does not pass gets the
    fallback. -/
theorem screen_breaker {p : Plaza} {n : Serial} {b : Breaker}
    (h : p.gate? n = some (.breaker b)) (r : Request) :
    (p.screen n r).1.gate? n = some (.breaker (b.call p.now .request).1) ∧
      (p.screen n r).2 =
        .ok (if (b.call p.now .request).2 then none else some b.fallback) := by
  constructor
  · rw [Plaza.gate?_screen, h, Option.map_some, if_pos rfl]
    rfl
  · rw [Plaza.screen, h, ← (b.move_call p.now .request).fallback_eq]
    rfl

/-- To tell it of a request that has ended is to call it for that. -/
theorem settle_breaker {p : Plaza} {n : Serial} {b : Breaker}
    (h : p.gate? n = some (.breaker b)) (r : Request) (o : Option Outcome) :
    (p.settle n r o).gate? n = some (.breaker (b.call p.now (.response o r.age)).1) := by
  rw [Plaza.gate?_settle, h, Option.map_some, if_pos rfl]
  cases o <;> rfl

/-! ## Runs -/

/-- A call with its time, and what it has done. -/
structure Moment where
  time : Nat
  call : Call
  before : Breaker
  after : Breaker
  /-- Does a request pass? -/
  passed : Bool
  move : Move before time call after passed

/-- A call at `now`. -/
def moment (b : Breaker) (now : Nat) (c : Call) : Moment :=
  ⟨now, c, b, (b.call now c).1, (b.call now c).2, b.move_call now c⟩

/-- Calls one after the other, at times that do not decrease, and what becomes of the breaker. -/
inductive Run (b₀ : Breaker) : List Moment → Breaker → Prop where
  | start : Run b₀ [] b₀
  | call {ms : List Moment} {b : Breaker} (run : Run b₀ ms b) {now : Nat}
      (later : ∀ m ∈ ms, m.time ≤ now) (c : Call) : Run b₀ (ms ++ [b.moment now c]) (b.call now c).1

/-- Does the breaker trip at this moment? -/
def Moment.trips (m : Moment) : Bool := newlyTripped m.before m.after

/-- The condition is looked at. -/
def Moment.Looks (m : Moment) : Prop := Breaker.Looks m.before m.time m.call

/-- The breaker begins to recover. -/
def Moment.Opens (m : Moment) : Prop := Breaker.Opens m.before m.call m.after m.passed

/-- The breaker has recovered. -/
def Moment.Closes (m : Moment) : Prop := Breaker.Closes m.before m.call m.after m.passed

/-- What has been recorded since the last trip. -/
def recorded (ms : List Moment) : List RoundTrip :=
  (ms.rtakeWhile fun m => !m.trips).filterMap (·.call.roundTrip?)

/-- A trip empties the record, and any other moment adds to it what it is about. -/
theorem recorded_snoc (ms : List Moment) (m : Moment) :
    recorded (ms ++ [m]) = if m.trips then [] else recorded ms ++ m.call.roundTrip?.toList := by
  unfold recorded
  rw [List.rtakeWhile_concat]
  cases m.trips with
  | true => rfl
  | false =>
    rw [if_neg Bool.false_ne_true, Bool.not_false, if_pos rfl, List.filterMap_append]
    cases hm : m.call.roundTrip? with
    | none => simp [hm]
    | some t => simp [hm]

namespace Run

variable {b₀ b : Breaker} {ms : List Moment}

/-- A run taken apart at one of its calls. -/
theorem split (h : Run b₀ ms b) {before after : List Moment} {m : Moment}
    (hms : ms = before ++ m :: after) :
    Run b₀ before m.before ∧ Run m.after after b ∧
      (∀ k ∈ before, k.time ≤ m.time) ∧ ∀ k ∈ after, m.time ≤ k.time := by
  induction h generalizing after with
  | start => simp at hms
  | @call ms b run now later c ih =>
    -- the moment is the last one, or it lies in the run before
    obtain ⟨rfl, rfl, rfl⟩ | ⟨init, rfl, hbefore⟩ := Lists.split_of_snoc hms
    · exact ⟨run, .start, later, List.forall_mem_nil _⟩
    · obtain ⟨hrun, hrest, hle, hge⟩ := ih hbefore
      have hnow : m.time ≤ now := later m (by simp [hbefore])
      refine ⟨hrun, .call hrest (fun k hk => later k (by simp [hbefore, hk])) c, hle, ?_⟩
      rw [List.forall_mem_append, List.forall_mem_singleton]
      exact ⟨hge, hnow⟩

theorem settings_eq (h : Run b₀ ms b) : b.settings = b₀.settings := by
  induction h with
  | start => rfl
  | call _ _ c ih => exact (move_call _ _ c).settings_eq.trans ih

theorem condition_eq (h : Run b₀ ms b) : b.condition = b₀.condition := by
  induction h with
  | start => rfl
  | call _ _ c ih => exact (move_call _ _ c).condition_eq.trans ih

theorem nextCheck_le (h : Run b₀ ms b) : b₀.nextCheck ≤ b.nextCheck := by
  induction h with
  | start => exact Nat.le_refl _
  | call _ _ c ih => exact Nat.le_trans ih (move_call _ _ c).nextCheck_le

/-- The counters are those of what has been recorded since the last trip. -/
theorem stats_eq (h : Run b₀ ms b) (hstats : b₀.stats = {}) :
    b.stats = Stats.ofRoundTrips (recorded ms) := by
  induction h with
  | start => exact hstats
  | @call ms b _ now _ c ih =>
    rw [recorded_snoc]
    split
    case isTrue htrips => exact (b.move_call now c).stats_of_trips htrips
    case isFalse hnot =>
      rw [(b.move_call now c).stats_of_not_trips hnot]
      show c.roundTrip?.elim _ _ = Stats.ofRoundTrips (_ ++ c.roundTrip?.toList)
      cases c.roundTrip? with
      | none =>
        rw [Option.toList_none, List.append_nil]
        exact ih
      | some t =>
        rw [Option.toList_some, Stats.ofRoundTrips_snoc, ← ih, Option.elim_some]

end Run

/-! ## Since a trip -/

/-- Where a breaker stands when it has tripped, the fallback was due until `due` at least, and a
    recovery takes `span`: it is tripped still, or again; or it was asked afterwards and recovers
    since; or it was asked once more after that, and has recovered. -/
inductive Stage (due span : Nat) (ms : List Moment) (b : Breaker) : Prop where
  | tripped (phase : b.phase = .tripped) (le : due ≤ b.deadline)
  | recovering {k : Moment} (mem : k ∈ ms) (opens : k.Opens) (le : due ≤ k.time)
      (phase : b.phase = .recovering) (deadline_eq : b.deadline = k.time + span)
  | standby {k r : Moment} (order : [k, r].Sublist ms) (opens : k.Opens) (closes : r.Closes)
      (le : due ≤ k.time) (recovered : k.time + span ≤ r.time) (phase : b.phase = .standby)

namespace Stage

variable {due span : Nat} {ms : List Moment} {b b' : Breaker}

/-- A moment that changes neither phase nor deadline leaves the stage. -/
theorem snoc (h : Stage due span ms b) (m : Moment) (hphase : b'.phase = b.phase)
    (hdeadline : b'.deadline = b.deadline) : Stage due span (ms ++ [m]) b' := by
  cases h with
  | tripped phase le => exact .tripped (hphase.trans phase) (hdeadline ▸ le)
  | recovering mem opens le phase deadline_eq =>
    exact .recovering (List.mem_append_left _ mem) opens le (hphase.trans phase)
      (hdeadline.trans deadline_eq)
  | standby order opens closes le recovered phase =>
    exact .standby (order.trans (List.sublist_append_left _ _)) opens closes le recovered
      (hphase.trans phase)

/-- A breaker that is not tripped any more has been asked since, when the fallback was not due any
    more. -/
theorem opened (h : Stage due span ms b) (hphase : b.phase ≠ .tripped) :
    ∃ k ∈ ms, k.Opens ∧ due ≤ k.time := by
  cases h with
  | tripped phase => exact absurd phase hphase
  | recovering mem opens le => exact ⟨_, mem, opens, le⟩
  | standby order opens _ le => exact ⟨_, order.subset List.mem_cons_self, opens, le⟩

/-- A call brings the breaker to the next stage, or leaves it where it is. -/
theorem step {m : Moment} (h : Stage due span ms m.before) (hlater : ∀ k ∈ ms, k.time ≤ m.time)
    (hspan : nanos m.before.settings.recoveryMillis = span) :
    Stage due span (ms ++ [m]) m.after := by
  -- the phase stays, or changes in one of the three ways
  by_cases hsame : m.after.phase = m.before.phase
  · exact h.snoc m hsame (m.move.deadline_of_same hsame)
  · obtain ⟨hlooks, htrips⟩ | hopens | hcloses := m.move.changes hsame
    -- to trip again it must have recovered first, so that time is past
    · obtain ⟨k, hk, -, hdue⟩ := h.opened hlooks.untripped
      have hle : due ≤ m.time := Nat.le_trans hdue (hlater k hk)
      refine .tripped (newlyTripped_iff.mp htrips).2 ?_
      rw [m.move.deadline_of_trips htrips]
      exact Nat.le_trans hle (Nat.le_add_right _ _)
    · obtain ⟨hover, hdeadline⟩ := m.move.deadlines_of_opens hopens
      rw [hspan] at hdeadline
      cases h with
      | tripped _ le =>
        exact .recovering (List.mem_append_right _ List.mem_cons_self) hopens
          (Nat.le_trans le hover) hopens.after_eq hdeadline
      | recovering _ _ _ phase => cases hopens.before_eq.symm.trans phase
      | standby _ _ _ _ _ phase => cases hopens.before_eq.symm.trans phase
    · cases h with
      | tripped phase => cases hcloses.before_eq.symm.trans phase
      | @recovering k mem opens le _ deadline_eq =>
        -- the request that closes comes behind the one that has opened
        have horder : [k, m].Sublist (ms ++ [m]) :=
          (List.singleton_sublist.mpr mem).append (List.Sublist.refl [m])
        exact .standby horder opens hcloses le (deadline_eq ▸ m.move.deadline_of_closes hcloses)
          hcloses.after_eq
      | standby _ _ _ _ _ phase => cases hcloses.before_eq.symm.trans phase

end Stage

/-- Where a breaker stands after some calls, that was tripped before them. -/
theorem Run.stage {b₀ b : Breaker} {ms : List Moment} (h : Run b₀ ms b)
    (hphase : b₀.phase = .tripped) {due : Nat} (hdue : due ≤ b₀.deadline) :
    Stage due (nanos b₀.settings.recoveryMillis) ms b := by
  induction h with
  | start => exact .tripped hphase hdue
  | @call ms b run now later c ih =>
    have hspan : nanos b.settings.recoveryMillis = nanos b₀.settings.recoveryMillis := by
      rw [run.settings_eq]
    exact ih.step (m := b.moment now c) later hspan

/-! ## Times -/

/-- A new breaker is in standby, may look at its condition at once, and has counted nothing. -/
theorem make_eq_ok {s : Settings} {created : Nat} {b : Breaker} (h : make s created = .ok b) :
    b.settings = s ∧ b.phase = .standby ∧ b.nextCheck = created ∧ b.stats = {} := by
  obtain ⟨c, -, h⟩ := Result.bind_eq_ok.mp h
  obtain ⟨f, -, h⟩ := Result.bind_eq_ok.mp h
  cases h
  exact ⟨rfl, rfl, rfl, rfl⟩

/-- What is between two calls of a run. -/
theorem Run.between {b₀ b : Breaker} {ms before mid after : List Moment} {m a : Moment}
    (h : Run b₀ ms b) (hms : ms = before ++ m :: mid ++ a :: after) :
    Run m.after mid a.before ∧ m.before.settings = b₀.settings ∧ ∀ k ∈ mid, k.time ≤ a.time := by
  obtain ⟨hrun, -, hle, -⟩ := h.split hms
  obtain ⟨hbefore, hmid, -, -⟩ := hrun.split rfl
  exact ⟨hmid, hbefore.settings_eq, fun k hk => hle k (by simp [hk])⟩

/-- Take a breaker, and calls of it at times that do not decrease.

    It enters another phase in three ways: it trips when its condition is looked at; when it is
    tripped, a request that gets the fallback may find that time over, and it recovers from then on;
    and when it recovers, a request that passes may find that time over, too, and it is in standby
    again.  Once it has tripped, neither does a request pass nor does it trip again before a request
    has got the fallback that came when the time of the fallback was over; nor is it in standby
    again before another one has come when, counted from that request, the time of recovery was over.
    The condition is looked at again only when the check period is over, and where it is not looked
    at, it does not matter.  What it is asked about is the counters of all the round trips that have
    ended since the last trip, without those that were abandoned. -/
theorem timing {s : Settings} {created : Nat} {b₀ b : Breaker} {ms : List Moment}
    (made : make s created = .ok b₀) (run : Run b₀ ms b) :
    (∀ m ∈ ms, m.after.phase ≠ m.before.phase →
      (m.Looks ∧ m.trips = true) ∨ m.Opens ∨ m.Closes) ∧
    (∀ before m mid a after, ms = before ++ m :: mid ++ a :: after → m.trips = true →
      (a.passed = true → ∃ k ∈ mid, k.Opens ∧
        m.time + nanos s.fallbackMillis ≤ k.time ∧ k.time ≤ a.time) ∧
      (a.after.phase = .standby → ∃ k r, [k, r].Sublist (mid ++ [a]) ∧ k.Opens ∧ r.Closes ∧
        m.time + nanos s.fallbackMillis ≤ k.time ∧ k.time + nanos s.recoveryMillis ≤ r.time) ∧
      (a.trips = true → m.time + nanos s.fallbackMillis ≤ a.time)) ∧
    (∀ before m mid a after, ms = before ++ m :: mid ++ a :: after → m.Looks → a.Looks →
      m.time + nanos s.checkMillis ≤ a.time) ∧
    (∀ m ∈ ms, ¬ m.Looks → ∀ c : Condition,
      ({ m.before with condition := c }.call m.time m.call).1 = { m.after with condition := c }) ∧
    ∀ before m after o latency, ms = before ++ m :: after →
      m.call = .response (some o) latency → m.Looks →
      (m.trips = true ↔
        b₀.condition.holds (Stats.ofRoundTrips (recorded before ++ [(o, latency)])) = true) := by
  obtain ⟨rfl, -, -, hstats⟩ := make_eq_ok made
  refine ⟨fun m _ => m.move.changes, fun before m mid a after hms htrips => ?_,
    fun before m mid a after hms hm ha => ?_, fun m _ => m.move.indifferent,
    fun before m after o latency hms hcall hlooks => ?_⟩
  · obtain ⟨hmid, hsettings, hle⟩ := run.between hms
    -- between the trip and the later call the breaker is at some stage
    have hstage := hmid.stage (newlyTripped_iff.mp htrips).2 (Nat.le_refl _)
    rw [m.move.deadline_of_trips htrips, m.move.settings_eq, hsettings] at hstage
    refine ⟨fun hpassed => ?_, fun hstandby => ?_, fun ha => ?_⟩
    · obtain ⟨k, hk, hopens, hdue⟩ := hstage.opened (hpassed ▸ a.move).untripped_of_passed
      exact ⟨k, hk, hopens, hdue, hle k hk⟩
    · have hspan : nanos a.before.settings.recoveryMillis = nanos b₀.settings.recoveryMillis := by
        rw [hmid.settings_eq, m.move.settings_eq, hsettings]
      cases hstage.step hle hspan with
      | tripped phase => cases hstandby.symm.trans phase
      | recovering _ _ _ phase => cases hstandby.symm.trans phase
      | standby order opens closes le recovered =>
        exact ⟨_, _, order, opens, closes, le, recovered⟩
    · obtain ⟨k, hk, -, hdue⟩ := hstage.opened (newlyTripped_iff.mp ha).1
      exact Nat.le_trans hdue (hle k hk)
  · obtain ⟨hmid, hsettings, -⟩ := run.between hms
    -- after the first look the next one is set, and never goes back
    rw [← hsettings, ← m.move.nextCheck_eq hm]
    exact Nat.le_trans hmid.nextCheck_le ha.due
  · obtain ⟨hbefore, -, -, -⟩ := run.split hms
    have hmove : Move m.before m.time (.response (some o) latency) m.after m.passed := hcall ▸ m.move
    rw [Stats.ofRoundTrips_snoc, ← hbefore.stats_eq hstats, ← hbefore.condition_eq]
    exact hmove.holds_of_looks (hcall ▸ hlooks)

/-- A breaker that minds network errors. -/
def wary : Settings := { condition := "NetworkErrorRatio() > 0.5" }

/-- A request passes, ends with a network error after a millisecond, and another one comes.  What the
    condition is asked about is that error, and if the breaker trips, the other request does not
    pass. -/
theorem timing_wary : ∃ b₀ b m₁ m₂ m₃, make wary 0 = .ok b₀ ∧ Run b₀ [m₁, m₂, m₃] b ∧
    m₁.passed = true ∧ m₂.Looks ∧
    (m₂.trips = true ↔
      b₀.condition.holds { requests := 1, networkErrors := 1, latencyMicros := 1000 } = true) ∧
    (m₂.trips = true → m₃.passed = false) := by
  have hmade : (make wary 0).toOption.isSome = true := by decide +kernel
  cases made : make wary 0 with
  | error e => rw [made] at hmade; cases hmade
  | ok b₀ =>
    obtain ⟨-, hphase, hcheck, -⟩ := make_eq_ok made
    have hrequest : b₀.call 0 .request = (b₀, true) := by simp [call, screen, hphase]
    let m₁ := b₀.moment 0 .request
    let m₂ := m₁.after.moment 1000000 (.response (some .networkError) 1000000)
    let m₃ := m₂.after.moment 2000000 .request
    have run : Run b₀ [m₁, m₂, m₃] m₃.after :=
      .call (.call (.call .start (List.forall_mem_nil _) _) (by simp [moment]) _)
        (by simp [moment]) _
    have hlooks : m₂.Looks := by
      refine ⟨⟨_, _, rfl⟩, ?_, ?_⟩
      · show (b₀.call 0 .request).1.nextCheck ≤ 1000000
        rw [hrequest, hcheck]
        exact Nat.zero_le _
      · show (b₀.call 0 .request).1.phase ≠ .tripped
        rw [hrequest, hphase]
        decide
    -- nothing has been recorded before it
    have hrecorded : recorded [m₁] = [] := by
      rw [← List.nil_append [m₁], recorded_snoc]
      split <;> rfl
    have hstats : Stats.ofRoundTrips [(.networkError, 1000000)] =
        { requests := 1, networkErrors := 1, latencyMicros := 1000 } := by decide +kernel
    obtain ⟨-, hsince, -, -, hcondition⟩ := timing made run
    refine ⟨b₀, _, m₁, m₂, m₃, rfl, run, congrArg Prod.snd hrequest, hlooks, ?_, fun htrips => ?_⟩
    · have hiff := hcondition [m₁] m₂ [m₃] .networkError 1000000 rfl rfl hlooks
      rwa [hrecorded, List.nil_append, hstats] at hiff
    · refine Bool.eq_false_iff.mpr fun hpassed => ?_
      obtain ⟨k, hk, -⟩ := (hsince [m₁] m₂ [] m₃ [] rfl htrips).1 hpassed
      cases hk

end Turnpike.Breaker
