/-
  A supervisor at work — with its store, from one moment of rest to the next.

  Everything that can be done is done at once: the reader reads, the applier applies, and a feed that
  has failed leads to a restart.  What remains is a supervisor that waits for a mutation, or pauses
  between two attempts.  Calls to the store can be refused, so many listings and so many watches.
-/
import Turnpike.Json.Writer
import Turnpike.Supervisor.Basic

namespace Turnpike.Supervisor

/-- A supervisor at work. -/
structure Running where
  supervisor : Supervisor
  store : Store
  ground : Proxy.Ground
  now : Nat := 0
  tally : Tally := .empty
  /-- The number of listings that will still be refused. -/
  refusedLists : Nat := 0
  /-- The number of watches that will still be refused. -/
  refusedWatches : Nat := 0

namespace Running

/-- Whether the next listing is refused. -/
def listing (r : Running) : Result Unit :=
  if 0 < r.refusedLists then .error (.feed "list refused") else .ok ()

/-- Whether the next watch is refused. -/
def watching (r : Running) : Result Unit :=
  if 0 < r.refusedWatches then .error (.feed "watch refused") else .ok ()

/-- What the next attempt to build a proxy meets with. -/
def conditions (r : Running) : Conditions := { ground := r.ground, listing := r.listing }

/-- After a listing. -/
def listed (r : Running) : Running := { r with refusedLists := r.refusedLists - 1 }

/-- After a watch. -/
def watched (r : Running) : Running := { r with refusedWatches := r.refusedWatches - 1 }

/-- The next thing to do, if there is one; a pause ends at once when `elapse` says so. -/
def step? (elapse : Bool) (r : Running) : Option Running :=
  match r.supervisor.task with
  | .none => none
  | .opening _ =>
    some { r.watched with supervisor := r.supervisor.openWatch r.store r.watching }
  | .following _ _ =>
    match r.supervisor.read? r.store with
    | some s => some { r with supervisor := s }
    | none =>
      match r.supervisor.applyNext? r.now r.ground r.tally with
      | some (s, tally) => some { r with supervisor := s, tally := tally }
      | none => r.supervisor.conclude?.map fun s => { r with supervisor := s }
  | .building _ =>
    let (s, tally) := r.supervisor.rebuild r.now r.conditions r.store r.tally
    some { r.listed with supervisor := s, tally := tally }
  | .pausing _ => if elapse then some { r with supervisor := r.supervisor.resume } else none

/-- Does what is to be done, up to so many things. -/
def runFor (elapse : Bool) (r : Running) : Nat → Running
  | 0 => r
  | n + 1 =>
    match r.step? elapse with
    | some r => runFor elapse r n
    | none => r

/-- The number of things after which nothing is left to be done: every generation follows the whole
    history at most, and there is one generation for each watch that is refused, and two more. -/
def enough (r : Running) : Nat :=
  (r.refusedWatches + 3) * (4 * r.store.revision + 2 * r.supervisor.attempts + 10)

/-- Does everything that is to be done. -/
def rest (elapse : Bool) (r : Running) : Running := r.runFor elapse r.enough

/-- Starts the supervisor. -/
def start (r : Running) : Running × Result Unit :=
  let (s, result) := r.supervisor.start r.now r.conditions r.store
  ({ r.listed with supervisor := s }, result)

/-- Changes the store. -/
def write (r : Running) (f : Store → Store) : Running := { r with store := f r.store }

/-- Is there a proxy in service that is not stopped? -/
def isLive (r : Running) : Bool := r.supervisor.current.isSome && r.supervisor.state != .stopped

/-- The host by which a supervisor is waited for. -/
def syncHost : Entity.Ref := .host "zz-sync"

/-- Waits until everything written is applied, by putting a host and deleting it again. -/
def sync (r : Running) : Running :=
  let r := r.rest true
  if r.isLive then
    let key := r.supervisor.layout.key syncHost
    (((r.write (·.put key (Json.obj []).text)).rest true).write (·.delete key)).rest true
  else r

end Running

end Turnpike.Supervisor
