/-
  A subscription at work — with its store, its channel and whoever takes from the channel.

  After every change the subscription does all that it can do.
-/
import Turnpike.Feed.Subscription

namespace Turnpike.Feed

/-- A store, a channel and, once it is begun, the subscription between them. -/
structure Reading where
  layout : Layout
  store : Store
  channel : Channel
  task : Option Subscription := none
  cancelled : Bool := false

namespace Reading

/-- Does everything that is to be done. -/
def rest (r : Reading) : Reading :=
  match r.task with
  | none => r
  | some task =>
    let (task, channel) := task.run r.store r.channel
    { r with task := some task, channel := channel }

/-- Changes the store. -/
def write (r : Reading) (f : Store → Store) : Reading := rest { r with store := f r.store }

/-- Begins to follow the store from behind a revision. -/
def start (r : Reading) (after : Nat) : Reading :=
  rest { r with task := some (.start r.layout r.store after r.cancelled) }

/-- Calls the subscription off. -/
def cancel (r : Reading) : Reading :=
  rest { r with cancelled := true, task := r.task.map fun t => { t with cancelled := true } }

/-- Gives up the receiving end of the channel. -/
def close (r : Reading) : Reading := rest { r with channel := r.channel.close }

/-- Takes one change after the other from the channel, up to so many, while there is one. -/
def takeUpTo (r : Reading) : Nat → Reading × List Entity.Change
  | 0 => (r, [])
  | n + 1 =>
    match r.channel.pop? with
    | none => (r, [])
    | some (c, channel) =>
      let (r, cs) := takeUpTo (rest { r with channel := channel }) n
      (r, c :: cs)

/-- Takes all changes from the channel.  There are no more of them than those that wait there and
    one for each revision of the store. -/
def drain (r : Reading) : Reading × List Entity.Change :=
  r.takeUpTo (r.channel.queue.length + r.store.revision + 1)

end Reading

end Turnpike.Feed
