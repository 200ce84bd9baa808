/-
  A supervisor among its tasks.

  A supervisor runs a proxy and keeps it in step with a store.  Several tasks take part in that, and
  none of them waits for the others: the store is written at any time; the one who builds a proxy
  takes a snapshot, and puts the proxy into service later; the reader looks at its watch, takes a
  mutation, and puts a change into the channel; the applier takes a change out of the channel, and
  applies it later.

  1. **The system** (`System`).  It is the store, the supervisor, and what the tasks have in hand.
     In addition it is remembered what the reader has put into the channel since its watch was to be
     opened.  That is only for what is to be said of it; no step looks at it.

  2. **Steps** (`Step`).  A step is what one of the parties does without the others in between.
     Steps follow each other in any order, and what can come of them is `Reached`.  The watch of a
     reader may fail, the store may refuse to be listed, sockets may be missing, and clocks may show
     anything.

  3. **At work** (`Running.steps_of_step?`).  A supervisor at work does all that can be done at
     once, one thing after the other.  That is one such order: each of its steps is made of a few of
     these.  So what is proved of the system holds of a supervisor at work, and can be tried on one.
-/
import Turnpike.Proofs.Feed.Subscription
import Turnpike.Supervisor.Running

namespace Turnpike.Supervisor

open Turnpike.Entity Turnpike.Feed

/-- A supervisor with its store and with what its tasks have in hand. -/
structure System where
  store : Store
  supervisor : Supervisor
  /-- The snapshot from which a proxy is being built. -/
  listed : Option Snapshot := none
  /-- The change that the applier has taken out of the channel, and not yet applied. -/
  hand : Option Change := none
  /-- All that the reader has put into the channel since its watch was to be opened. -/
  sent : List Change := []

/-- The changes that wait in the channel. -/
def Task.queue : Task → List Change
  | .following _ channel => channel.queue
  | _ => []

/-- Is a proxy to be built? -/
def isDue (s : Supervisor) : Prop :=
  (s.current = none ∧ s.task = .none) ∨ ∃ attempt, s.task = .building attempt

/-- What one of the parties does. -/
inductive Step (y : System) : System → Prop where
  | write {store : Store} (w : y.store.Write store) : Step y { y with store := store }
  /-- A snapshot is taken of what the store holds. -/
  | list (due : y.supervisor.isDue) :
      Step y { y with listed := some (y.supervisor.layout.snapshot y.store) }
  /-- The first generation. -/
  | launch (clock : Nat → Nat) (c : Conditions) {sn : Snapshot} (first : y.supervisor.current = none)
      (idle : y.supervisor.task = .none) (listed : y.listed = some sn) :
      Step y { y with
        supervisor := (begin (y.supervisor.install clock c sn)).1
        listed := none }
  /-- The next generation. -/
  | rebuild (clock : Nat → Nat) (c : Conditions) (tally : Tally) {attempt : Nat} {sn : Snapshot}
      (building : y.supervisor.task = .building attempt) (listed : y.listed = some sn) :
      Step y { y with
        supervisor := (settle attempt tally (y.supervisor.install clock c sn)).1
        listed := none }
  /-- The store cannot be listed. -/
  | refuse (e : Error) (tally : Tally) {attempt : Nat}
      (building : y.supervisor.task = .building attempt) :
      Step y { y with supervisor := (settle attempt tally (y.supervisor, .error e)).1 }
  /-- The reader is started. -/
  | watch (refusal : Result Unit) {r : Nat} (opening : y.supervisor.task = .opening r) :
      Step y { y with supervisor := y.supervisor.openWatch y.store refusal, sent := [] }
  /-- The watch of the reader passes over a mutation. -/
  | pass {reader : Subscription} {channel : Channel} {w : Store.Watch}
      (following : y.supervisor.task = .following reader channel)
      (watching : reader.stage = .watching) (look : Store.Look y.store reader.watch w none) :
      Step y { y with
        supervisor :=
          { y.supervisor with task := .following { reader with watch := w } channel } }
  /-- The reader reads, or puts a change into the channel. -/
  | read {s : Supervisor} (read : y.supervisor.read? y.store = some s) :
      Step y { y with
        supervisor := s
        sent := y.sent ++ s.task.queue.drop y.supervisor.task.queue.length }
  | take {c : Change} {s : Supervisor} (free : y.hand = none)
      (taken : y.supervisor.take? = some (c, s)) :
      Step y { y with supervisor := s, hand := some c }
  | apply (now : Nat) (g : Proxy.Ground) (tally : Tally) {c : Change} (held : y.hand = some c) :
      Step y { y with supervisor := (y.supervisor.applyChange now g tally c).1, hand := none }
  | conclude {s : Supervisor} (free : y.hand = none)
      (concluded : y.supervisor.conclude? = some s) : Step y { y with supervisor := s }
  | resume : Step y { y with supervisor := y.supervisor.resume }
  | cancel : Step y { y with supervisor := y.supervisor.cancel }
  /-- Reader, applier or builder notice that they are called off. -/
  | abandon (stopping : y.supervisor.stopping = true) (free : y.hand = none) :
      Step y { y with supervisor := y.supervisor.abandon, listed := none }
  | retire (stopping : y.supervisor.stopping = true) (idle : y.supervisor.task = .none)
      (free : y.hand = none) : Step y { y with supervisor := y.supervisor.retire }

/-- Any number of steps. -/
inductive Steps (x : System) : System → Prop where
  | refl : Steps x x
  | tail {y z : System} (before : Steps x y) (step : Step y z) : Steps x z

/-- What a supervisor with a new store can come to. -/
def Reached (history : Nat) (l : Layout) (o : Options) (b : Proxy.Options) (y : System) : Prop :=
  Steps { store := .make history, supervisor := { layout := l, options := o, blueprint := b } } y

theorem Steps.trans {x y z : System} (h : Steps x y) (h' : Steps y z) : Steps x z := by
  induction h' with
  | refl => exact h
  | tail _ step ih => exact .tail ih step

theorem Step.steps {y z : System} (h : Step y z) : Steps y z := .tail .refl h

/-! ## A supervisor at work -/

namespace Running

variable {r r' : Running}

/-- A supervisor at work with nothing in hand. -/
def system (r : Running) (sent : List Change) : System :=
  { store := r.store, supervisor := r.supervisor, sent := sent }

/-- What a supervisor at work does next is a few steps, one behind the other. -/
theorem steps_of_step? {elapse : Bool} (h : r.step? elapse = some r') (sent : List Change) :
    ∃ sent', Steps (r.system sent) (r'.system sent') := by
  unfold step? at h
  split at h
  case h_1 => cases h
  case h_2 after htask =>
    cases h
    exact ⟨[], (Step.watch (y := r.system sent) r.watching htask).steps⟩
  case h_3 reader channel htask =>
    split at h
    case h_1 s hread =>
      cases h
      exact ⟨_, (Step.read (y := r.system sent) hread).steps⟩
    case h_2 =>
      split at h
      case h_1 s tally happly =>
        cases h
        -- the change is taken, and applied in a step of its own
        obtain ⟨⟨c, t⟩, htake, heq⟩ := Option.map_eq_some_iff.mp happly
        have hs : s = (t.applyChange r.now r.ground r.tally c).1 := (congrArg Prod.fst heq).symm
        have htaken : Step (r.system sent) { r.system sent with supervisor := t, hand := some c } :=
          .take rfl htake
        refine ⟨sent, .tail htaken.steps ?_⟩
        rw [show ({ r with supervisor := s, tally := tally } : Running).system sent =
          { r.system sent with supervisor := s } from rfl, hs]
        exact .apply r.now r.ground r.tally rfl
      case h_2 =>
        obtain ⟨s, hconclude, rfl⟩ := Option.map_eq_some_iff.mp h
        exact ⟨sent, (Step.conclude (y := r.system sent) rfl hconclude).steps⟩
  case h_4 attempt htask =>
    cases h
    refine ⟨sent, ?_⟩
    show Steps (r.system sent) { r.system sent with
      supervisor := (r.supervisor.rebuild r.now r.conditions r.store r.tally).1 }
    unfold rebuild build
    rw [htask]
    dsimp only
    split
    case h_1 e _ => exact (Step.refuse (y := r.system sent) e r.tally htask).steps
    case h_2 =>
      have hlist : Step (r.system sent) { r.system sent with
          listed := some (r.supervisor.layout.snapshot r.store) } := .list (.inr ⟨attempt, htask⟩)
      exact .tail hlist.steps (.rebuild (fun _ => r.now) r.conditions r.tally htask rfl)
  case h_5 =>
    split at h
    case isTrue =>
      cases h
      exact ⟨sent, (Step.resume (y := r.system sent)).steps⟩
    case isFalse => cases h

/-- So are any number of things that it does. -/
theorem steps_runFor (elapse : Bool) (n : Nat) (sent : List Change) :
    ∃ sent', Steps (r.system sent) ((r.runFor elapse n).system sent') := by
  induction n generalizing r sent with
  | zero => exact ⟨sent, .refl⟩
  | succ n ih =>
    unfold runFor
    split
    case h_1 r' hstep =>
      obtain ⟨sent', hfirst⟩ := steps_of_step? hstep sent
      obtain ⟨sent'', hrest⟩ := ih (r := r') sent'
      exact ⟨sent'', hfirst.trans hrest⟩
    case h_2 => exact ⟨sent, .refl⟩

theorem steps_rest (elapse : Bool) (sent : List Change) :
    ∃ sent', Steps (r.system sent) ((r.rest elapse).system sent') :=
  steps_runFor elapse r.enough sent

/-- The first generation is built in two steps, or not at all. -/
theorem steps_start (hfirst : r.supervisor.current = none) (hidle : r.supervisor.task = .none)
    (sent : List Change) : Steps (r.system sent) (r.start.1.system sent) := by
  show Steps (r.system sent) { r.system sent with
    supervisor := (r.supervisor.start r.now r.conditions r.store).1 }
  -- the store is listed, or it is not and nothing happens
  unfold Supervisor.start build
  split
  case h_1 => exact .refl
  case h_2 =>
    have hlist : Step (r.system sent) { r.system sent with
        listed := some (r.supervisor.layout.snapshot r.store) } := .list (.inl ⟨hfirst, hidle⟩)
    exact .tail hlist.steps (.launch (fun _ => r.now) r.conditions hfirst hidle rfl)

/-- To stop at once is to be called off, to leave off, and to give up the proxy. -/
theorem steps_stop (sent : List Change) :
    Steps (r.system sent) ({ r with supervisor := r.supervisor.stop }.system sent) := by
  have hcancel : Step (r.system sent)
      { r.system sent with supervisor := r.supervisor.cancel } := .cancel
  have habandon : Step { r.system sent with supervisor := r.supervisor.cancel }
      { r.system sent with supervisor := r.supervisor.cancel.abandon } := .abandon rfl rfl
  exact .tail (.tail hcancel.steps habandon) (.retire rfl rfl rfl)

theorem steps_write (f : Store → Store) (hf : r.store.Write (f r.store)) (sent : List Change) :
    Steps (r.system sent) ((r.write f).system sent) :=
  (Step.write (y := r.system sent) hf).steps

end Running

end Turnpike.Supervisor
