/-
  Subscriptions — the changes after a revision, handed on one by one.

  A subscription follows a watch on the root of a layout, turns mutations into changes, and puts
  them into a channel that holds only so many at a time.  Mutations that make no change that can be
  read are passed over.  It works step by step, until it has to wait: for the next mutation, or for
  room in the channel.  It is over when it is cancelled, when nobody receives any more, or with the
  error that ended its watch.
-/
import Turnpike.Feed.Classify
import Turnpike.Store.Watch

set_option linter.unusedVariables false

namespace Turnpike.Feed

open Turnpike.Entity

/-! ## Channels -/

/-- Changes on their way, the earliest first. -/
structure Channel where
  capacity : Nat
  queue : List Change
  /-- Is there still somebody to receive? -/
  received : Bool
  deriving Repr, Inhabited

namespace Channel

/-- An empty channel. -/
def make (capacity : Nat) : Channel := ⟨capacity, [], true⟩

/-- Is there room for one more change? -/
def hasRoom (c : Channel) : Bool := c.queue.length < c.capacity

/-- The channel with one more change. -/
def push (c : Channel) (x : Change) : Channel := { c with queue := c.queue ++ [x] }

/-- Takes the earliest change out. -/
def pop? (c : Channel) : Option (Change × Channel) :=
  match c.queue with
  | [] => none
  | x :: r => some (x, { c with queue := r })

/-- The channel when nobody receives any more. -/
def close (c : Channel) : Channel := { c with queue := [], received := false }

end Channel

/-! ## Subscriptions -/

/-- What a subscription is about to do. -/
inductive Stage where
  /-- It looks for the next mutation. -/
  | watching
  /-- It has a change to put into the channel. -/
  | sending (c : Change)
  | finished (r : Result Unit)
  deriving Inhabited

/-- A subscription under way. -/
structure Subscription where
  layout : Layout
  watch : Store.Watch
  stage : Stage
  cancelled : Bool
  deriving Inhabited

namespace Subscription

/-- A subscription that is over before it began. -/
def overWith (l : Layout) (r : Result Unit) : Subscription :=
  { layout := l, watch := default, stage := .finished r, cancelled := false }

/-- Starts a subscription after a revision. -/
def start (l : Layout) (s : Store) (after : Nat) (cancelled : Bool) : Subscription :=
  if cancelled then overWith l (.ok ())
  else
    match s.watch l.root after with
    | .ok w => { layout := l, watch := w, stage := .watching, cancelled := false }
    | .error e => overWith l (.error e)

/-- The result, when it is over. -/
def result? (t : Subscription) : Option (Result Unit) :=
  match t.stage with
  | .finished r => some r
  | _ => none

/-- The subscription with its end. -/
def finish (t : Subscription) (r : Result Unit) : Subscription := { t with stage := .finished r }

/-- The stage after a mutation. -/
def afterMutation (l : Layout) (m : Store.Mutation) : Stage :=
  match l.changeOf? m with
  | some c => .sending c
  | none => .watching

/-- One step; none when the subscription has to wait or is over.  To pass over mutations that do not
    concern the watch is a step too. -/
def step? (s : Store) (t : Subscription) (ch : Channel) : Option (Subscription × Channel) :=
  match t.stage with
  | .finished _ => none
  | .watching =>
    if t.cancelled then some (t.finish (.ok ()), ch)
    else
      match t.watch.poll s with
      | (w, .mutation m) => some ({ t with watch := w, stage := afterMutation t.layout m }, ch)
      | (w, .pending) => if w = t.watch then none else some ({ t with watch := w }, ch)
      | (w, .failed e) => some ({ t with watch := w, stage := .finished (.error e) }, ch)
      | (w, .over) => some (t.finish (.error (.feed "watch stream ended")), ch)
  | .sending c =>
    if t.cancelled || !ch.received then some (t.finish (.ok ()), ch)
    else if ch.hasRoom then some ({ t with stage := .watching }, ch.push c)
    else none

/-- Up to so many steps. -/
def runFor (s : Store) (t : Subscription) (ch : Channel) : Nat → Subscription × Channel
  | 0 => (t, ch)
  | n + 1 =>
    match step? s t ch with
    | some (t', ch') => runFor s t' ch' n
    | none => (t, ch)

/-- The number of steps after which a subscription certainly waits: two for each mutation that it
    can still meet, and a few for its end. -/
def stepsLeft (s : Store) (t : Subscription) : Nat :=
  2 * (t.watch.backlog.length + (s.revision - t.watch.seen)) + 3

/-- Runs until it has to wait or is over. -/
def run (s : Store) (t : Subscription) (ch : Channel) : Subscription × Channel :=
  runFor s t ch (stepsLeft s t)

end Subscription

end Turnpike.Feed
