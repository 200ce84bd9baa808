/-
  The supervisor — keeps one proxy in service, in step with the feed.

  A proxy of the next generation is built from a snapshot: it plays the snapshot back, takes over the
  sockets of its predecessor, starts, and then takes its place.  From there on a reader follows the
  feed from the revision of the snapshot and hands changes through a channel to an applier.

  When the feed fails, the applier first works off what the reader has handed over; then the next
  generation is built, with a pause behind every attempt that fails.  After so many failures in a
  row the supervisor gives up, and leaves the proxy that it has as it is.
-/
import Turnpike.Feed.Snapshot
import Turnpike.Feed.Subscription
import Turnpike.Proxy.Listen

namespace Turnpike

namespace Supervisor

open Turnpike.Feed

/-- The states of a supervisor. -/
inductive State where
  | initializing
  | running
  | restarting
  | stopped
  deriving DecidableEq, Repr, Inhabited

/-- The name of a state. -/
def State.text : State → String
  | initializing => "initializing"
  | running => "running"
  | restarting => "restarting"
  | stopped => "stopped"

/-- What a supervisor is told when it is made. -/
structure Options where
  /-- The pause behind a failed attempt, in nanoseconds. -/
  retryNanos : Nat := 5000000000
  /-- The number of failed attempts in a row after which it gives up; at least one is made. -/
  maxAttempts : Nat := 10
  /-- The number of changes that the channel holds; at least one. -/
  buffer : Nat := 2000
  deriving DecidableEq, Repr, Inhabited

/-- What a supervisor is about to do in the background. -/
inductive Task where
  | none
  /-- It opens a watch after a revision. -/
  | opening (revision : Nat)
  /-- A reader hands changes to the applier. -/
  | following (reader : Subscription) (channel : Channel)
  /-- The feed has failed, and an attempt to build the next generation is to be made, the how
      manieth in a row. -/
  | building (attempt : Nat)
  /-- It pauses after an attempt. -/
  | pausing (attempt : Nat)
  deriving Inhabited

/-- What an attempt to build a proxy meets with: the place the proxy stands on, whether the feed can
    be listed, and whether sockets can be handed on. -/
structure Conditions where
  ground : Proxy.Ground
  listing : Result Unit := .ok ()
  handing : Result Unit := .ok ()

end Supervisor

open Supervisor in
/-- A supervisor with its proxy. -/
structure Supervisor where
  layout : Feed.Layout
  options : Supervisor.Options := {}
  /-- The options of every proxy that it builds. -/
  blueprint : Proxy.Options := {}
  state : State := .initializing
  current : Option Proxy := none
  /-- The number of proxies built so far, whether or not they could be started. -/
  generation : Nat := 0
  restarts : Nat := 0
  /-- Why it has given up, until somebody asks. -/
  failure : Option Error := none
  stopping : Bool := false
  task : Task := .none
  deriving Inhabited

namespace Supervisor

open Turnpike.Feed

/-! ## Building -/

/-- A proxy built from a snapshot, with the sockets of its predecessor.  The changes of the snapshot
    are applied as a clock goes on. -/
def raise (clock : Nat → Nat) (c : Conditions) (id : Nat) (o : Proxy.Options) (s : Snapshot)
    (old : Option Proxy) : Result Proxy :=
  let p := (Proxy.make id o).playOn c.ground clock s.changes
  match old, c.handing with
  | some _, .error e => .error e
  | old, _ =>
    let p := p.takeOver ((old.map Proxy.sockets).getD [])
    match p.start c.ground with
    | (p, .ok ()) => .ok p
    | (_, .error e) => .error e

/-- Builds the next generation from a snapshot and puts it into service.  The answer is the revision
    of the snapshot. -/
def install (clock : Nat → Nat) (c : Conditions) (snapshot : Snapshot) (s : Supervisor) :
    Supervisor × Result Nat :=
  let id := s.generation + 1
  let s := { s with generation := id }
  match raise clock c id s.blueprint snapshot s.current with
  | .error e => (s, .error e)
  | .ok p => ({ s with current := some p }, .ok snapshot.revision)

/-- Builds the next generation from what the store holds. -/
def build (now : Nat) (c : Conditions) (store : Store) (s : Supervisor) :
    Supervisor × Result Nat :=
  match c.listing with
  | .error e => (s, .error e)
  | .ok () => s.install (fun _ => now) c (s.layout.snapshot store)

/-- After the attempt to build the first generation. -/
def begin : Supervisor × Result Nat → Supervisor × Result Unit
  | (s, .error e) => (s, .error e)
  | (s, .ok revision) => ({ s with state := .running, task := .opening revision }, .ok ())

/-- Builds the first generation and begins to follow the feed. -/
def start (now : Nat) (c : Conditions) (store : Store) (s : Supervisor) :
    Supervisor × Result Unit :=
  begin (s.build now c store)

/-! ## Following the feed -/

/-- An empty channel between reader and applier. -/
def channel (s : Supervisor) : Channel := .make (max s.options.buffer 1)

/-- Opens the watch of the reader, unless that is refused. -/
def openWatch (store : Store) (refusal : Result Unit) (s : Supervisor) : Supervisor :=
  match s.task with
  | .opening revision =>
    let reader := match refusal with
      | .ok () => Subscription.start s.layout store revision s.stopping
      | .error e =>
        if s.stopping then Subscription.overWith s.layout (.ok ())
        else Subscription.overWith s.layout (.error e)
    { s with task := .following reader s.channel }
  | _ => s

/-- One step of the reader, if it can make one. -/
def read? (store : Store) (s : Supervisor) : Option Supervisor :=
  match s.task with
  | .following reader channel =>
    (Subscription.step? store reader channel).map fun (reader, channel) =>
      { s with task := .following reader channel }
  | _ => none

/-- What a change is counted as. -/
def appliedSeries (c : Entity.Change) : Result Unit → Series
  | .ok () => .change c.kind true
  | .error _ => .change c.kind false

/-- The applier takes the earliest change out of the channel, if there is one. -/
def take? (s : Supervisor) : Option (Entity.Change × Supervisor) :=
  match s.task, s.current with
  | .following reader channel, some _ =>
    channel.pop?.map fun (c, channel) => (c, { s with task := .following reader channel })
  | _, _ => none

/-- The applier applies a change to the proxy in service. -/
def applyChange (now : Nat) (g : Proxy.Ground) (tally : Tally) (c : Entity.Change)
    (s : Supervisor) : Supervisor × Tally :=
  match s.current with
  | some p =>
    let (p, r) := p.apply g now c
    ({ s with current := some p }, tally.count (appliedSeries c r))
  | none => (s, tally)

/-- The applier takes the earliest change and applies it, if there is one. -/
def applyNext? (now : Nat) (g : Proxy.Ground) (tally : Tally) (s : Supervisor) :
    Option (Supervisor × Tally) :=
  s.take?.map fun (c, s) => s.applyChange now g tally c

/-- When the reader is over and the channel empty, the feed is followed no longer: a failure leads
    to a restart. -/
def conclude? (s : Supervisor) : Option Supervisor :=
  match s.task with
  | .following reader channel =>
    match reader.result?, channel.queue with
    | some (.ok ()), [] => some { s with task := .none }
    | some (.error _), [] =>
      if s.stopping then some { s with task := .none }
      else some { s with state := .restarting, task := .building 1 }
    | _, _ => none
  | _ => none

/-! ## Restarting -/

/-- The greatest number of attempts in a row. -/
def attempts (s : Supervisor) : Nat := max s.options.maxAttempts 1

/-- The error with which it gives up. -/
def exhausted (s : Supervisor) : Error :=
  .fatal s!"server could not be rebuilt after {s.attempts} attempts"

/-- After an attempt to build the next generation, the how manieth in a row. -/
def settle (attempt : Nat) (tally : Tally) : Supervisor × Result Nat → Supervisor × Tally
  | (s, .ok revision) =>
    ({ s with state := .running, restarts := s.restarts + 1, task := .opening revision },
      tally.count .restart)
  | (s, .error _) =>
    if attempt < s.attempts then ({ s with task := .pausing attempt }, tally)
    else ({ s with state := .stopped, failure := some s.exhausted, task := .none }, tally)

/-- Makes an attempt to build the next generation. -/
def rebuild (now : Nat) (c : Conditions) (store : Store) (tally : Tally) (s : Supervisor) :
    Supervisor × Tally :=
  match s.task with
  | .building attempt => settle attempt tally (s.build now c store)
  | _ => (s, tally)

/-- The pause is over. -/
def resume (s : Supervisor) : Supervisor :=
  match s.task with
  | .pausing attempt => { s with task := .building (attempt + 1) }
  | _ => s

/-! ## Stopping -/

/-- Calls off what goes on in the background. -/
def cancel (s : Supervisor) : Supervisor :=
  { s with
    stopping := true
    task := match s.task with
      | .following reader channel => .following { reader with cancelled := true } channel
      | task => task }

/-- Leaves off what goes on in the background.  What waits in the channel is lost. -/
def abandon (s : Supervisor) : Supervisor := { s with task := .none }

/-- Gives up the proxy. -/
def retire (s : Supervisor) : Supervisor := { s with current := none, state := .stopped }

/-- Stops following the feed, and stops the proxy. -/
def stop (s : Supervisor) : Supervisor := s.cancel.abandon.retire

/-- How it came to a stop, once it has; the reason why it gave up is told only once. -/
def stopped? (s : Supervisor) : Supervisor × Option (Result Unit) :=
  if s.state ≠ .stopped then (s, none)
  else
    match s.failure with
    | some e => ({ s with failure := none }, some (.error (.fatal e.message)))
    | none => (s, some (.ok ()))

/-! ## The proxy in service -/

/-- The proxy in service. -/
def proxy (s : Supervisor) : Result Proxy :=
  match s.current with
  | some p => .ok p
  | none => .error (.notFound "running server")

end Supervisor

end Turnpike
