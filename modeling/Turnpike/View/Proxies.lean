/-
  Views of proxies at work — gates, pools, proxies and supervisors as documents.
-/
import Turnpike.Supervisor.Running
import Turnpike.View.Changes

namespace Turnpike

open Turnpike.Json

/-! ## Gates -/

/-- The settings of a gate. -/
def Gate.Instance.settingsView : Instance → Json
  | .rate g => g.settings.json
  | .flight g => g.settings.json
  | .retarget g => g.settings.json
  | .breaker g => g.settings.json
  | .probe _ => .null

/-- What a gate remembers, if it is a limit of requests in flight or a breaker, and its settings
    otherwise. -/
def Gate.Instance.view : Instance → Json
  | .flight g => .arr [ofNat g.connections.total, ofNat g.connections.tracked]
  | .breaker g => .str g.phase.text
  | g => g.settingsView

/-- The place of a gate in its chain. -/
def Gate.Entry.view {α : Type} (e : Entry α) : Json :=
  .arr [.str e.id, .ofInt e.priority, .str e.kind]

/-- A chain of gates. -/
def Gate.Chain.view {α : Type} (c : Chain α) : Json :=
  object [("ids", ofTexts c.ids), ("len", ofNat c.entries.length),
    ("empty", .bool c.entries.isEmpty), ("entries", .arr (c.entries.map Entry.view))]

/-! ## Pools -/

/-- A server of a pool, with what is going on there. -/
def Balance.Endpoint.view (e : Endpoint) : Json :=
  .arr [.str e.id, .str e.url.text, .str e.authority, ofNat e.active, e.stats.view true]

/-- A pool with its servers. -/
def Balance.Pool.view (p : Pool) : Json :=
  object [("id", .str p.id), ("empty", .bool p.endpoints.isEmpty),
    ("servers", .arr (p.endpoints.map Endpoint.view))]

/-! ## Proxies -/

/-- A backend in service. -/
def Proxy.Cluster.view (c : Cluster) : Json :=
  object [("backend", c.pool.backend.json),
    ("servers", .arr (c.pool.endpoints.map (·.server.json)))]

/-- A frontend in service. -/
def Proxy.Service.view (s : Service) : Json :=
  object [("frontend", s.spec.json), ("middlewares", ofTexts s.chain.ids)]

/-- A listener, and whether it has a socket. -/
def Proxy.Listening.view (l : Listening) : Json :=
  object [("listener", l.spec.json), ("bound", .bool l.socket.isSome)]

/-- A proxy with all that it serves. -/
def Proxy.view (p : Proxy) : Json :=
  object [("id", ofNat p.id), ("state", .str p.phase.text),
    ("hosts", .arr (p.hosts.values.map (·.json))),
    ("listeners", .arr (p.listeners.values.map Listening.view)),
    ("backends", .arr (p.backends.values.map Cluster.view)),
    ("frontends", .arr (p.frontends.values.map Service.view)),
    ("routes", ofNat p.router.size), ("in_flight", ofNat p.tracker.active)]

/-- Where a request is routed to. -/
def Proxy.targetView (p : Proxy) (s : Service) (params : List (String × String)) : Json :=
  object [("frontend", Entity.idView s.spec.id),
    ("backend", .str (((p.cluster? s.cluster).map (·.pool.id)).getD "")),
    ("params", ofPairs params), ("spec", s.spec.json), ("middlewares", ofTexts s.chain.ids)]

/-- The state of a supervisor, and the number of its proxy. -/
def Supervisor.view (s : Supervisor) : Json :=
  object [("state", .str s.state.text), ("restarts", ofNat s.restarts),
    ("server", ofOption (fun p => ofNat p.id) s.current)]

end Turnpike
