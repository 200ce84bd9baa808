/-
  What becomes of a supervisor that is started once.

  When the feed of a supervisor fails, it builds a new proxy, and it may have to try several times.
  While it does, requests are handled by the old one, and somebody may call it off.  What can become
  of it is told by a log.

  1. **Pieces.**  A proxy is built in pieces: the feed is listed, the proxy is raised, with the
     sockets of the one in service, it takes its place, and only then it is counted and announced.
     The first two of them can fail.  Between any two of them requests are handled, the supervisor
     is called off, or it gives up its proxy.  How far the building has come is the `Work`, and what
     it is for its `Aim`.

  2. **Steps** (`Step`).  A step is one such piece, or what somebody else does; the feed and the
     store do what they like.  So there is no store in a `Course`: a step may bring any.

  3. **The log** (`Event`).  On the way it is noted when the first proxy takes its place, when the
     feed fails, when attempts fail, when a proxy is replaced, when no other attempt is to be made,
     and when somebody is told so.

  4. **At work.**  To start a supervisor, to let it do what is to be done, and to stop it are
     courses of such steps (`Running.course_start`, `Running.course_rest`, `Running.course_stop`).
-/
import Turnpike.Proofs.Proxy.Traffic
import Turnpike.Proofs.Supervisor.Generation

namespace Turnpike.Supervisor

open Turnpike.Entity Turnpike.Feed

/-! ## Courses -/

/-- What is told of a supervisor. -/
inductive Event where
  /-- The first proxy has taken its place. -/
  | launched (id : Nat)
  /-- The feed has failed while this proxy was in service. -/
  | failed (serving : Option Proxy)
  /-- An attempt to build a proxy has failed. -/
  | missed (e : Error)
  /-- The next proxy has taken the place of the one before. -/
  | replaced (id : Nat)
  /-- After an attempt has failed, no other is to be made. -/
  | gaveUp
  /-- Somebody was told why it has given up. -/
  | told

/-- What a proxy is built for: to be the first, or, at the how manieth attempt in a row, to be the
    next. -/
inductive Aim where
  | launch
  | restart (attempt : Nat)

/-- How far the building of a proxy has come. -/
inductive Work where
  | idle
  | listing (aim : Aim)
  | raised (aim : Aim) (p : Proxy) (revision : Nat)
  /-- The proxy has taken its place, and is to be counted and announced. -/
  | placed (aim : Aim) (revision : Nat)

/-- A supervisor and what has become of it. -/
structure Course where
  supervisor : Supervisor
  /-- Has it been started? -/
  started : Bool := false
  work : Work := .idle
  log : List Event := []

/-- After an attempt. -/
def Aim.close (tally : Tally) : Aim → Supervisor × Result Nat → Supervisor
  | .launch, x => (begin x).1
  | .restart attempt, x => (settle attempt tally x).1

/-- A proxy has taken its place. -/
def Aim.placed (id : Nat) : Aim → Event
  | .launch => .launched id
  | .restart _ => .replaced id

/-- After an attempt to restart has failed nothing is to be done. -/
def Aim.left : Aim → Task → List Event
  | .restart _, .none => [.gaveUp]
  | _, _ => []

/-- The feed fails when a restart is due. -/
def Task.failure (serving : Option Proxy) (t : Task) : List Event :=
  if t.isRestart then [.failed serving] else []

/-- A change is taken only while the feed is followed. -/
theorem take?_eq_some {s t : Supervisor} {c : Change} (h : s.take? = some (c, t)) :
    ∃ reader channel channel', s.task = .following reader channel ∧
      t = { s with task := .following reader channel' } := by
  unfold take? at h
  split at h
  case h_1 reader channel _ htask _ =>
    obtain ⟨⟨_, channel'⟩, -, heq⟩ := Option.map_eq_some_iff.mp h
    cases heq
    exact ⟨reader, channel, channel', htask, rfl⟩
  case h_2 => cases h

namespace Course

/-- An attempt has failed. -/
def miss (y : Course) (aim : Aim) (tally : Tally) (s : Supervisor) (e : Error) : Course :=
  let s := aim.close tally (s, .error e)
  { y with supervisor := s, work := .idle, log := y.log ++ .missed e :: aim.left s.task }

/-- After an attempt that was not the last, there is a pause. -/
theorem miss_of_lt {y : Course} {s : Supervisor} {n : Nat} {tally : Tally} {e : Error}
    (h : n < s.attempts) :
    y.miss (.restart n) tally s e =
      { y with
        supervisor := { s with task := .pausing n }
        work := .idle
        log := y.log ++ [.missed e] } := by
  unfold miss Aim.close settle
  dsimp only
  rw [if_pos h]
  rfl

/-- After the last attempt it gives up, and the reason is kept. -/
theorem miss_of_le {y : Course} {s : Supervisor} {n : Nat} {tally : Tally} {e : Error}
    (h : s.attempts ≤ n) :
    y.miss (.restart n) tally s e =
      { y with
        supervisor := { s with state := .stopped, failure := some s.exhausted, task := .none }
        work := .idle
        log := y.log ++ [.missed e] ++ [.gaveUp] } := by
  unfold miss Aim.close settle
  dsimp only
  rw [if_neg (Nat.not_lt_of_le h), List.append_assoc]
  rfl

/-- What one of the parties does. -/
inductive Step (y : Course) : Course → Prop where
  | start (fresh : y.started = false) :
      Step y { y with started := true, work := .listing .launch }
  | attempt {n : Nat} (building : y.supervisor.task = .building n) (idle : y.work = .idle) :
      Step y { y with work := .listing (.restart n) }
  /-- The feed cannot be listed. -/
  | refuse {aim : Aim} (tally : Tally) (e : Error) (listing : y.work = .listing aim) :
      Step y (y.miss aim tally y.supervisor e)
  /-- Sockets cannot be handed on, or the proxy cannot be started. -/
  | spoil {aim : Aim} {e : Error} (clock : Nat → Nat) (c : Conditions) (sn : Snapshot)
      (tally : Tally)
      (listing : y.work = .listing aim)
      (spoilt : raise clock c (y.supervisor.generation + 1) y.supervisor.blueprint sn
        y.supervisor.current = .error e) :
      Step y (y.miss aim tally
        { y.supervisor with generation := y.supervisor.generation + 1 } e)
  | raise {aim : Aim} {p : Proxy} (clock : Nat → Nat) (c : Conditions) (sn : Snapshot)
      (listing : y.work = .listing aim)
      (raised : raise clock c (y.supervisor.generation + 1) y.supervisor.blueprint sn
        y.supervisor.current = .ok p) :
      Step y { y with
        supervisor := { y.supervisor with generation := y.supervisor.generation + 1 }
        work := .raised aim p sn.revision }
  | place {aim : Aim} {p : Proxy} {revision : Nat} (raised : y.work = .raised aim p revision) :
      Step y { y with
        supervisor := { y.supervisor with current := some p }
        work := .placed aim revision
        log := y.log ++ [aim.placed p.id] }
  | announce {aim : Aim} {revision : Nat} (tally : Tally) (placed : y.work = .placed aim revision) :
      Step y { y with supervisor := aim.close tally (y.supervisor, .ok revision), work := .idle }
  /-- A watch is opened. -/
  | watch (store : Store) (refusal : Result Unit) :
      Step y { y with supervisor := y.supervisor.openWatch store refusal }
  /-- The watch of the reader passes over a mutation. -/
  | pass {reader : Subscription} {channel : Channel} (w : Store.Watch)
      (following : y.supervisor.task = .following reader channel) :
      Step y { y with
        supervisor :=
          { y.supervisor with task := .following { reader with watch := w } channel } }
  | read {store : Store} {s : Supervisor} (read : y.supervisor.read? store = some s) :
      Step y { y with supervisor := s }
  | take {c : Change} {s : Supervisor} (taken : y.supervisor.take? = some (c, s)) :
      Step y { y with supervisor := s }
  /-- The applier applies a change, as long as the feed is followed. -/
  | apply (now : Nat) (g : Proxy.Ground) (tally : Tally) (c : Change)
      (following : y.supervisor.task.isFollowing = true) :
      Step y { y with supervisor := (y.supervisor.applyChange now g tally c).1 }
  /-- Requests are handled. -/
  | serve {p q : Proxy} (serving : y.supervisor.current = some p) (traffic : p.Traffic q) :
      Step y { y with supervisor := { y.supervisor with current := some q } }
  | conclude {s : Supervisor} (concluded : y.supervisor.conclude? = some s) :
      Step y { y with
        supervisor := s
        log := y.log ++ s.task.failure y.supervisor.current }
  | resume : Step y { y with supervisor := y.supervisor.resume }
  | cancel : Step y { y with supervisor := y.supervisor.cancel }
  /-- What goes on in the background is left off, but not in the midst of an attempt. -/
  | abandon (stopping : y.supervisor.stopping = true) (idle : y.work = .idle) :
      Step y { y with supervisor := y.supervisor.abandon }
  /-- The proxy in service is given up. -/
  | vacate (stopping : y.supervisor.stopping = true) :
      Step y { y with supervisor := { y.supervisor with current := none } }
  /-- Everything that was called off has come to its end. -/
  | finish (stopping : y.supervisor.stopping = true) :
      Step y { y with supervisor := { y.supervisor with state := .stopped } }
  /-- Somebody asks how it came to a stop, and is told a reason. -/
  | ask {e : Error} (answer : y.supervisor.stopped?.2 = some (.error e)) :
      Step y { y with supervisor := y.supervisor.stopped?.1, log := y.log ++ [.told] }

/-- Any number of steps. -/
inductive Steps (x : Course) : Course → Prop where
  | refl : Steps x x
  | tail {y z : Course} (before : Steps x y) (step : Step y z) : Steps x z

/-- What can become of a new supervisor. -/
def Reached (l : Layout) (o : Options) (b : Proxy.Options) (y : Course) : Prop :=
  Steps { supervisor := { layout := l, options := o, blueprint := b } } y

theorem Steps.trans {x y z : Course} (h : Steps x y) (h' : Steps y z) : Steps x z := by
  induction h' with
  | refl => exact h
  | tail _ step ih => exact .tail ih step

theorem Step.steps {y z : Course} (h : Step y z) : Steps y z := .tail .refl h

/-- An attempt to build a proxy is a few steps, however it ends. -/
theorem steps_build {y : Course} (aim : Aim) (h : y.work = .listing aim) (now : Nat)
    (c : Conditions) (store : Store) (tally : Tally) :
    ∃ log, Steps y { y with
      supervisor := aim.close tally (y.supervisor.build now c store)
      work := .idle
      log := log } := by
  unfold build
  split
  case h_1 e _ => exact ⟨_, (Step.refuse tally e h).steps⟩
  case h_2 =>
    unfold install
    dsimp only
    split
    case h_1 e hraise =>
      exact ⟨_, (Step.spoil _ c (y.supervisor.layout.snapshot store) tally h hraise).steps⟩
    -- it is raised, takes its place, and is announced
    case h_2 p hraise =>
      have hraised := Step.raise _ c (y.supervisor.layout.snapshot store) h hraise
      exact ⟨_, .tail (.tail hraised.steps (.place rfl)) (.announce tally rfl)⟩

/-- So is an attempt to build the next one. -/
theorem steps_rebuild {y : Course} {n : Nat} (building : y.supervisor.task = .building n)
    (idle : y.work = .idle) (now : Nat) (c : Conditions) (store : Store) (tally : Tally) :
    ∃ log, Steps y { y with
      supervisor := (y.supervisor.rebuild now c store tally).1
      work := .idle
      log := log } := by
  have hattempt : Step y { y with work := .listing (.restart n) } := .attempt building idle
  obtain ⟨log, hbuild⟩ := steps_build (y := { y with work := .listing (.restart n) }) (.restart n)
    rfl now c store tally
  refine ⟨log, hattempt.steps.trans ?_⟩
  unfold rebuild
  rw [building]
  exact hbuild

/-- To apply the next change is to take it and to apply it. -/
theorem steps_applyNext? {y : Course} {now : Nat} {g : Proxy.Ground} {tally tally' : Tally}
    {s : Supervisor} (h : y.supervisor.applyNext? now g tally = some (s, tally')) :
    Steps y { y with supervisor := s } := by
  obtain ⟨⟨c, t⟩, htake, heq⟩ := Option.map_eq_some_iff.mp h
  have hs : (t.applyChange now g tally c).1 = s := congrArg Prod.fst heq
  have htaken : Step y { y with supervisor := t } := .take htake
  have hfollowing : t.task.isFollowing = true := by
    obtain ⟨_, _, _, -, rfl⟩ := take?_eq_some htake
    rfl
  rw [← hs]
  exact .tail htaken.steps (.apply now g tally c hfollowing)

end Course

/-! ## A supervisor at work -/

namespace Running

variable {r r' : Running}

/-- A supervisor at work that does not build a proxy at the moment. -/
def course (r : Running) (started : Bool) (log : List Event) : Course :=
  { supervisor := r.supervisor, started := started, log := log }

/-- To be started is to be marked as started and to build the first proxy. -/
theorem course_start (r : Running) (log : List Event) :
    ∃ log', Course.Steps (r.course false log) (r.start.1.course true log') := by
  have hstart : Course.Step (r.course false log)
      { r.course false log with started := true, work := .listing .launch } := .start rfl
  obtain ⟨log', hbuild⟩ := Course.steps_build
    (y := { r.course false log with started := true, work := .listing .launch }) .launch rfl
    r.now r.conditions r.store r.tally
  exact ⟨log', hstart.steps.trans hbuild⟩

/-- What a supervisor at work does next is a few steps. -/
theorem course_of_step? {elapse : Bool} (h : r.step? elapse = some r') (log : List Event) :
    ∃ log', Course.Steps (r.course true log) (r'.course true log') := by
  unfold step? at h
  split at h
  case h_1 => cases h
  case h_2 =>
    cases h
    exact ⟨log, (Course.Step.watch (y := r.course true log) r.store r.watching).steps⟩
  -- something is read, else something applied, else the feed is at its end
  case h_3 reader channel htask =>
    split at h
    case h_1 s hread =>
      cases h
      exact ⟨log, (Course.Step.read (y := r.course true log) hread).steps⟩
    case h_2 =>
      split at h
      case h_1 s tally happly =>
        cases h
        exact ⟨log, Course.steps_applyNext? (y := r.course true log) happly⟩
      case h_2 =>
        obtain ⟨s, hconclude, rfl⟩ := Option.map_eq_some_iff.mp h
        exact ⟨_, (Course.Step.conclude (y := r.course true log) hconclude).steps⟩
  case h_4 attempt htask =>
    cases h
    exact Course.steps_rebuild (y := r.course true log) htask rfl r.now r.conditions r.store r.tally
  case h_5 =>
    split at h
    case isTrue =>
      cases h
      exact ⟨log, (Course.Step.resume (y := r.course true log)).steps⟩
    case isFalse => cases h

/-- All that there is to do is a course of steps. -/
theorem course_rest (elapse : Bool) (r : Running) (log : List Event) :
    ∃ log', Course.Steps (r.course true log) ((r.rest elapse).course true log') := by
  unfold rest
  generalize r.enough = n
  induction n generalizing r log with
  | zero => exact ⟨log, .refl⟩
  | succ n ih =>
    unfold runFor
    split
    case h_1 r' hstep =>
      obtain ⟨log', hfirst⟩ := course_of_step? hstep log
      obtain ⟨log'', hrest⟩ := ih r' log'
      exact ⟨log'', hfirst.trans hrest⟩
    case h_2 => exact ⟨log, .refl⟩

/-- To stop at once is to be called off, to leave off, and to give up the proxy. -/
theorem course_stop (r : Running) (log : List Event) :
    Course.Steps (r.course true log)
      ({ r with supervisor := r.supervisor.stop }.course true log) := by
  have hcancel : Course.Step (r.course true log)
      { r.course true log with supervisor := r.supervisor.cancel } := .cancel
  have habandon : Course.Step { r.course true log with supervisor := r.supervisor.cancel }
      { r.course true log with supervisor := r.supervisor.cancel.abandon } := .abandon rfl rfl
  exact .tail (.tail (.tail hcancel.steps habandon) (.vacate rfl)) (.finish rfl)

end Running

end Turnpike.Supervisor
