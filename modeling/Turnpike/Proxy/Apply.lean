/-
  Changes applied to a proxy.

  Every operation says how the proxy stands afterwards, and whether it could be done.  Whatever can
  go wrong is found out before anything is changed.

  A frontend needs its backend to be there, and a backend stays as long as a frontend uses it; a
  server brings a plain backend with it if there is none.  An entity that is put again keeps what
  was counted for it, as long as it is still the same.  A listener of an active proxy is bound at
  once; two listeners never have the same address.
-/
import Turnpike.Proxy.Basic

namespace Turnpike.Proxy

open Turnpike.Entity Turnpike.Balance

/-- What a proxy finds around it: the kinds of gates that can be built, and the addresses that can be
    bound. -/
structure Ground where
  registry : Gate.Registry
  canBind : String → Bool

/-- A proxy after an operation, and whether the operation could be done. -/
abbrev Done := Proxy × Result Unit

/-- An operation that could be done. -/
def done (p : Proxy) : Done := (p, .ok ())

/-- An operation that could not be done. -/
def failed (p : Proxy) (e : Error) : Done := (p, .error e)

/-! ## Hosts -/

/-- Puts a host. -/
def upsertHost (p : Proxy) (h : Host) : Done :=
  match h.check with
  | .error e => p.failed e
  | .ok () => done { p with hosts := p.hosts.insert h.name h }

/-- Deletes a host. -/
def deleteHost (p : Proxy) (name : String) : Done :=
  match p.hosts.get? name with
  | some _ => done { p with hosts := p.hosts.erase name }
  | none => p.failed (.notFound ("host " ++ name))

/-! ## Listeners -/

/-- The identifier of another listener at the same address. -/
def rival? (p : Proxy) (l : Listener) : Option String :=
  (p.listeners.entries.find? fun (id, e) =>
    id != l.id && e.spec.address.address == l.address.address).map (·.1)

/-- A listener with a socket of its own, accepting connections. -/
def listenOn (p : Proxy) (l : Listener) : Proxy :=
  { p with
    listeners := p.listeners.insert l.id
      { spec := l, socket := some ⟨l.address.address, p.id, p.bound⟩, serving := true }
    bound := p.bound + 1 }

/-- Puts a listener.  One that keeps its address keeps its socket. -/
def upsertListener (g : Ground) (p : Proxy) (l : Listener) : Done :=
  match l.check with
  | .error e => p.failed e
  | .ok () =>
    match p.rival? l with
    | some other =>
      p.failed (.conflict s!"listener {other} already uses address {l.address.address}")
    | none =>
      match (p.listeners.get? l.id).filter (·.spec.address.address == l.address.address) with
      | some e => done { p with listeners := p.listeners.insert l.id { e with spec := l } }
      | none =>
        if p.phase ≠ .active then done { p with listeners := p.listeners.insert l.id { spec := l } }
        else if g.canBind l.address.address then done (p.listenOn l)
        else p.failed .io

/-- Deletes a listener. -/
def deleteListener (p : Proxy) (id : String) : Done :=
  match p.listeners.get? id with
  | some _ => done { p with listeners := p.listeners.erase id }
  | none => p.failed (.notFound ("listener " ++ id))

/-! ## Backends and servers -/

/-- The proxy with one more cluster. -/
def addCluster (p : Proxy) (pool : Pool) : Proxy :=
  { p with
    backends := p.backends.insert pool.id { serial := p.nextSerial, pool := pool }
    nextSerial := p.nextSerial + 1 }

/-- Puts a backend. -/
def upsertBackend (p : Proxy) (b : Backend) : Done :=
  match b.check with
  | .error e => p.failed e
  | .ok () =>
    match p.backends.get? b.id with
    | some c =>
      done { p with
        backends := p.backends.insert b.id { c with pool := (c.pool.configure b.settings).1 } }
    | none => done (p.addCluster (.ofBackend b))

/-- Deletes a backend that no frontend uses. -/
def deleteBackend (p : Proxy) (id : String) : Done :=
  match p.backends.get? id with
  | none => p.failed (noBackend id)
  | some c =>
    match c.users.keys with
    | user :: _ => p.failed (.conflict s!"backend {id} is used by frontend {user}")
    | [] => done { p with backends := p.backends.erase id }

/-- Puts a server, and a plain backend if there is none. -/
def upsertServer (p : Proxy) (backend : String) (s : Server) : Done :=
  match p.backends.get? backend with
  | some c =>
    match c.pool.upsert s with
    | .error e => p.failed e
    | .ok pool => done { p with backends := p.backends.insert backend { c with pool := pool } }
  | none =>
    match (Pool.ofBackend { id := backend }).upsert s with
    | .error e => p.failed e
    | .ok pool => done (p.addCluster pool)

/-- Deletes a server. -/
def deleteServer (p : Proxy) (backend id : String) : Done :=
  match p.backends.get? backend with
  | none => p.failed (noBackend backend)
  | some c =>
    match c.pool.remove id with
    | .error e => p.failed e
    | .ok pool => done { p with backends := p.backends.insert backend { c with pool := pool } }

/-! ## Frontends -/

/-- Notes that a frontend uses a backend. -/
def join (d : Dictionary Cluster) (backend id : String) : Dictionary Cluster :=
  d.modify backend fun c => { c with users := c.users.insert id () }

/-- Notes that a frontend uses a backend no longer. -/
def part (d : Dictionary Cluster) (backend id : String) : Dictionary Cluster :=
  d.modify backend fun c => { c with users := c.users.erase id }

/-- The router with the route of a service changed, when it is another one. -/
def reroute (p : Proxy) (s : Service) (route : String) : Result (Route.Router Nat) :=
  if s.spec.route = route then .ok p.router else p.router.replace s.spec.route route s.serial

/-- The backends when a service has moved. -/
def moved (p : Proxy) (s : Service) (f : Frontend) : Dictionary Cluster :=
  if s.spec.backendId = f.backendId then p.backends
  else join (part p.backends s.spec.backendId f.id) f.backendId f.id

/-- The cluster of a service that has moved. -/
def clusterAfter (s : Service) (f : Frontend) (c : Cluster) : Nat :=
  if s.spec.backendId = f.backendId then s.cluster else c.serial

/-- Puts a new frontend. -/
def addFrontend (p : Proxy) (f : Frontend) (c : Cluster) : Done :=
  match p.router.add f.route p.nextSerial with
  | .error e => p.failed e
  | .ok router =>
    done { p with
      router := router
      backends := join p.backends f.backendId f.id
      frontends := p.frontends.insert f.id
        { serial := p.nextSerial, spec := f, cluster := c.serial }
      nextSerial := p.nextSerial + 1 }

/-- Puts a frontend in the place of another of its identifier. -/
def updateFrontend (p : Proxy) (s : Service) (f : Frontend) (c : Cluster) : Done :=
  match p.reroute s f.route with
  | .error e => p.failed e
  | .ok router =>
    done { p with
      router := router
      backends := p.moved s f
      frontends := p.frontends.insert f.id { s with spec := f, cluster := clusterAfter s f c } }

/-- Puts a frontend. -/
def upsertFrontend (p : Proxy) (f : Frontend) : Done :=
  match f.check with
  | .error e => p.failed e
  | .ok () =>
    match p.backends.get? f.backendId with
    | none => p.failed (noBackend f.backendId)
    | some c =>
      match p.frontends.get? f.id with
      | none => p.addFrontend f c
      | some s => p.updateFrontend s f c

/-- Deletes a frontend and its gates. -/
def deleteFrontend (p : Proxy) (id : String) : Done :=
  match p.frontends.get? id with
  | none => p.failed (noFrontend id)
  | some s =>
    done { p with
      frontends := p.frontends.erase id
      router := (p.router.remove? s.spec.route).getD p.router
      backends := part p.backends s.spec.backendId id }

/-! ## Gates -/

/-- Puts a gate, which starts afresh. -/
def upsertGate (g : Ground) (now : Nat) (p : Proxy) (frontend : String) (gate : Entity.Gate) :
    Done :=
  match gate.check with
  | .error e => p.failed e
  | .ok () =>
    match p.frontends.get? frontend with
    | none => p.failed (noFrontend frontend)
    | some s =>
      match g.registry.build gate.kind gate.settings now with
      | .error e => p.failed e
      | .ok i =>
        done { p with
          frontends := p.frontends.insert frontend
            { s with chain := s.chain.upsert ⟨gate.id, gate.priority, gate.kind, i⟩ } }

/-- Deletes a gate. -/
def deleteGate (p : Proxy) (frontend id : String) : Done :=
  match p.frontends.get? frontend with
  | none => p.failed (noFrontend frontend)
  | some s =>
    match s.chain.remove id with
    | .error e => p.failed e
    | .ok chain =>
      done { p with frontends := p.frontends.insert frontend { s with chain := chain } }

/-! ## All of them -/

/-- Puts an entity. -/
def upsert (g : Ground) (now : Nat) (p : Proxy) : Upsert → Done
  | .host h => p.upsertHost h
  | .listener l => p.upsertListener g l
  | .backend b => p.upsertBackend b
  | .server backend s => p.upsertServer backend s
  | .frontend f => p.upsertFrontend f
  | .gate frontend gate => p.upsertGate g now frontend gate

/-- Deletes an entity. -/
def delete (p : Proxy) : Ref → Done
  | .host name => p.deleteHost name
  | .listener id => p.deleteListener id
  | .backend id => p.deleteBackend id
  | .server backend id => p.deleteServer backend id
  | .frontend id => p.deleteFrontend id
  | .gate frontend id => p.deleteGate frontend id

/-- Applies a change. -/
def apply (g : Ground) (now : Nat) (p : Proxy) : Change → Done
  | .upsert u => p.upsert g now u
  | .delete r => p.delete r

/-- Applies changes one after the other, the `i`-th at the time `clock i`; those that cannot be
    applied are passed over. -/
def playOn (g : Ground) (clock : Nat → Nat) (p : Proxy) : List Change → Proxy
  | [] => p
  | c :: cs => playOn g (fun i => clock (i + 1)) (p.apply g (clock 0) c).1 cs

/-- Applies changes one after the other at one time. -/
def play (g : Ground) (now : Nat) (p : Proxy) (changes : List Change) : Proxy :=
  p.playOn g (fun _ => now) changes

end Turnpike.Proxy
