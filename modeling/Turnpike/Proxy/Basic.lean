/-
  The proxy — a configuration in service.

  A proxy holds hosts, listeners, backends and frontends.  A backend in service has a pool of
  endpoints and knows the frontends that use it; a frontend in service has a chain of gates and
  counts its round trips, and its route leads to it.  Pools and frontends in service are known by
  serial numbers: one that takes the place of another of the same identifier is not the same.

  A proxy begins in its initial phase, in which it is configured but bound to no socket.
-/
import Turnpike.Balance.Pool
import Turnpike.Entity.Change
import Turnpike.Gate.Plaza
import Turnpike.Life.Tracker

namespace Turnpike

namespace Proxy

open Turnpike.Entity Turnpike.Balance

/-! ## Parts -/

/-- The phases of a proxy. -/
inductive Phase where
  /-- It is configured, but does not serve. -/
  | init
  | active
  | shuttingDown
  deriving DecidableEq, Repr, Inhabited

/-- The name of a phase. -/
def Phase.text : Phase → String
  | init => "init"
  | active => "active"
  | shuttingDown => "shutting_down"

/-- What a proxy is told when it is made. -/
structure Options where
  /-- A listener that it has from the beginning. -/
  defaultListener : Option Listener := none
  /-- How long a shutdown waits for requests under way, in nanoseconds. -/
  drainNanos : Nat := 30000000000
  /-- How long a request may take, in nanoseconds. -/
  requestLimit : Option Nat := none
  deriving DecidableEq, Repr, Inhabited

/-- A bound socket: the address it was bound to, and the proxy that bound it, as its how manieth. -/
structure Socket where
  address : String
  owner : Nat
  number : Nat
  deriving DecidableEq, Repr

/-- A listener in service. -/
structure Listening where
  spec : Listener
  socket : Option Socket := none
  /-- Are connections accepted? -/
  serving : Bool := false
  deriving DecidableEq, Repr

/-- A backend in service. -/
structure Cluster where
  serial : Nat
  pool : Pool
  /-- The frontends whose requests go to it. -/
  users : Dictionary Unit := .empty

/-- A frontend in service. -/
structure Service where
  serial : Nat
  spec : Frontend
  /-- The serial number of the cluster that its requests go to. -/
  cluster : Nat
  chain : Gate.Chain Gate.Instance := .empty
  stats : Stats := {}

end Proxy

open Proxy Entity in
/-- A configuration in service. -/
structure Proxy where
  id : Nat
  options : Options
  phase : Phase := .init
  hosts : Dictionary Host := .empty
  listeners : Dictionary Listening := .empty
  backends : Dictionary Cluster := .empty
  frontends : Dictionary Service := .empty
  /-- Routes lead to serial numbers of frontends in service. -/
  router : Route.Router Nat := .empty
  tracker : Life.Tracker := {}
  /-- The serial number of the next cluster or service. -/
  nextSerial : Nat := 0
  /-- The number of sockets bound so far. -/
  bound : Nat := 0
  deriving Inhabited

namespace Proxy

open Turnpike.Entity Turnpike.Balance

/-- The listeners of a new proxy. -/
def Options.listeners (o : Options) : Dictionary Listening :=
  match o.defaultListener with
  | some l => Dictionary.empty.insert l.id { spec := l }
  | none => .empty

/-- A new proxy. -/
def make (id : Nat) (o : Options) : Proxy := { id := id, options := o, listeners := o.listeners }

/-! ## Looking up -/

/-- The error when a backend is not there. -/
def noBackend (id : String) : Error := .notFound ("backend " ++ id)

/-- The error when a frontend is not there. -/
def noFrontend (id : String) : Error := .notFound ("frontend " ++ id)

/-- The service of a serial number. -/
def service? (p : Proxy) (serial : Nat) : Option Service :=
  p.frontends.values.find? (·.serial == serial)

/-- The cluster of a serial number. -/
def cluster? (p : Proxy) (serial : Nat) : Option Cluster :=
  p.backends.values.find? (·.serial == serial)

/-- A backend in service. -/
def backend (p : Proxy) (id : String) : Result Cluster :=
  match p.backends.get? id with
  | some c => .ok c
  | none => .error (noBackend id)

/-- A frontend in service. -/
def frontend (p : Proxy) (id : String) : Result Service :=
  match p.frontends.get? id with
  | some s => .ok s
  | none => .error (noFrontend id)

/-- The proxy with the pool of a cluster changed. -/
def setPool (p : Proxy) (serial : Nat) (pool : Pool) : Proxy :=
  { p with
    backends := p.backends.mapValues fun c => if c.serial = serial then { c with pool := pool } else c }

/-- The proxy with a service changed. -/
def setService (p : Proxy) (s : Service) : Proxy :=
  { p with frontends := p.frontends.mapValues fun t => if t.serial = s.serial then s else t }

/-- The frontend in service that a request is routed to, with the parameters of its route. -/
def route? (p : Proxy) (method : Http.Method) (host : Option String) (path : String) :
    Option (Service × List (String × String)) :=
  match p.router.route? method host path with
  | some m => (p.service? m.target).map fun s => (s, m.params)
  | none => none

/-! ## Statistics -/

/-- The sums of a frontend. -/
def frontendStats (p : Proxy) (id : String) : Result Stats := (·.stats) <$> p.frontend id

/-- The sums of a backend. -/
def backendStats (p : Proxy) (id : String) : Result Stats := (·.pool.stats) <$> p.backend id

/-- The sums of a server. -/
def serverStats (p : Proxy) (backend id : String) : Result Stats := do
  let c ← p.backend backend
  match c.pool.get? id with
  | some e => .ok e.stats
  | none => .error (.notFound ("server " ++ (Ref.server backend id).text))

/-- The servers of a backend. -/
def servers (p : Proxy) (id : String) : Result (List Server) :=
  (·.pool.endpoints.map Endpoint.server) <$> p.backend id

/-- The identifiers of the gates of a frontend, in order. -/
def gates (p : Proxy) (id : String) : Result (List String) := (·.chain.ids) <$> p.frontend id

/-- The frontends from the worst to the best, so many at most, and only those of one backend if that
    is asked for. -/
def topFrontends (p : Proxy) (limit : Nat) (backend : Option String) : List (String × Stats) :=
  let all := p.frontends.entries.filter fun (_, s) => backend.all (· == s.spec.backendId)
  (Stats.rank (all.map fun (id, s) => (id, s.stats))).take limit

/-- The servers from the worst to the best, so many at most, and only those of one backend if that
    is asked for. -/
def topServers (p : Proxy) (limit : Nat) (backend : Option String) : List (Ref × Stats) :=
  let all := p.backends.entries.filter fun (id, _) => backend.all (· == id)
  (Stats.rank (all.flatMap fun (id, c) =>
    c.pool.endpoints.map fun e => (Ref.server id e.id, e.stats))).take limit

end Proxy

end Turnpike
