/-
  Listening — from start to stop.

  Starting binds every listener that has no socket yet and then serves them all; nothing is served
  when one cannot be bound.  A proxy can hand its sockets on to a successor, which adopts those at
  whose addresses it listens itself and need not bind them again.
-/
import Turnpike.Proxy.Apply

namespace Turnpike.Proxy

open Turnpike.Entity

/-- A listener with a socket. -/
def bindAt (p : Proxy) (id : String) (e : Listening) : Proxy :=
  { p with
    listeners := p.listeners.insert id
      { e with socket := some ⟨e.spec.address.address, p.id, p.bound⟩ }
    bound := p.bound + 1 }

/-- Binds those of the given listeners that have no socket, up to the first that cannot be bound. -/
def bindAll (g : Ground) (p : Proxy) : List String → Done
  | [] => done p
  | id :: ids =>
    match (p.listeners.get? id).filter (·.socket.isNone) with
    | none => bindAll g p ids
    | some e =>
      if g.canBind e.spec.address.address then bindAll g (p.bindAt id e) ids else p.failed .io

/-- The proxy serving at all its sockets. -/
def serveAll (p : Proxy) : Proxy :=
  { p with
    phase := .active
    listeners := p.listeners.mapValues fun e => { e with serving := e.socket.isSome } }

/-- Starts a proxy in its initial phase. -/
def start (g : Ground) (p : Proxy) : Done :=
  if p.phase ≠ .init then p.failed (.conflict s!"server {p.id} is already started")
  else
    match bindAll g p p.listeners.keys with
    | (p, .error e) => p.failed e
    | (p, .ok ()) => done p.serveAll

/-- Stops a proxy: it gives up its sockets. -/
def stop (p : Proxy) : Proxy :=
  { p with
    phase := .shuttingDown
    listeners := p.listeners.mapValues fun e => { e with socket := none, serving := false } }

/-! ## Handing sockets on -/

/-- The listeners with their sockets, of those that have one. -/
def sockets (p : Proxy) : List (Listener × Socket) :=
  p.listeners.values.filterMap fun e => e.socket.map fun s => (e.spec, s)

/-- The first listener at an address that has no socket. -/
def waiting? (p : Proxy) (address : String) : Option (String × Listening) :=
  p.listeners.entries.find? fun (_, e) => e.socket.isNone && e.spec.address.address == address

/-- Gives a socket to a listener at its address, if one is waiting for it. -/
def adopt (p : Proxy) (offer : Listener × Socket) : Proxy :=
  match p.waiting? offer.1.address.address with
  | some (id, e) => { p with listeners := p.listeners.insert id { e with socket := some offer.2 } }
  | none => p

/-- Takes over what can be used of the sockets of a predecessor. -/
def takeOver (p : Proxy) (offers : List (Listener × Socket)) : Proxy := offers.foldl adopt p

end Turnpike.Proxy
