/-
  Entities as stored documents.

  `json` writes an entity with all its fields; `read?` takes a tree apart, with defaults for fields
  that may be missing.  An identifier may be missing: it stands in the key as well, and that one
  counts.
-/
import Turnpike.Entity.Basic
import Turnpike.Json.Reader
import Turnpike.Json.Shape

namespace Turnpike.Entity

open Turnpike.Json

/-! ## Hosts and listeners -/

/-- A host as a document. -/
def Host.json (h : Host) : Json := .obj [("name", .str h.name)]

/-- The host of a document. -/
def Host.read? : Reader Host := fun t => do
  let [name] ← t.fields? ["name"] false | none
  some { name := ← withDefault text? "" name }

/-- An address as a document. -/
def Address.json (a : Address) : Json :=
  .obj [("address", .str a.address), ("network", .str a.network)]

/-- The address of a document. -/
def Address.read? : Reader Address := fun t => do
  let [network, address] ← t.fields? ["network", "address"] false | none
  some { network := ← withDefault text? "tcp" network, address := ← required text? address }

/-- A listener as a document. -/
def Listener.json (l : Listener) : Json :=
  .obj [("address", l.address.json), ("id", .str l.id), ("protocol", .str l.protocol)]

/-- The listener of a document. -/
def Listener.read? : Reader Listener := fun t => do
  let [id, protocol, address] ← t.fields? ["id", "protocol", "address"] false | none
  some {
    id := ← withDefault text? "" id
    protocol := ← withDefault text? "http" protocol
    address := ← required Address.read? address }

/-! ## Backends and servers -/

/-- Time limits as a document. -/
def Timeouts.json (t : Timeouts) : Json :=
  .obj [("dial_ms", .ofNat t.dialMillis), ("read_ms", .ofNat t.readMillis)]

/-- The time limits of a document. -/
def Timeouts.read? : Reader Timeouts := fun t => do
  let [read, dial] ← t.fields? ["read_ms", "dial_ms"] false | none
  some { readMillis := ← withDefault word? 0 read, dialMillis := ← withDefault word? 0 dial }

/-- Keep-alive settings as a document. -/
def KeepAlive.json (k : KeepAlive) : Json :=
  .obj [("idle_ms", .ofNat k.idleMillis), ("max_idle_per_host", .ofNat k.maxIdlePerHost)]

/-- The keep-alive settings of a document. -/
def KeepAlive.read? : Reader KeepAlive := fun t => do
  let [idle, most] ← t.fields? ["idle_ms", "max_idle_per_host"] false | none
  some {
    idleMillis := ← withDefault word? 90000 idle
    maxIdlePerHost := ← withDefault word? 32 most }

/-- The settings of a backend as a document. -/
def BackendSettings.json (s : BackendSettings) : Json :=
  .obj [("keep_alive", s.keepAlive.json), ("timeouts", s.timeouts.json)]

/-- The backend settings of a document. -/
def BackendSettings.read? : Reader BackendSettings := fun t => do
  let [timeouts, keepAlive] ← t.fields? ["timeouts", "keep_alive"] false | none
  some {
    timeouts := ← withDefault Timeouts.read? {} timeouts
    keepAlive := ← withDefault KeepAlive.read? {} keepAlive }

/-- A backend as a document. -/
def Backend.json (b : Backend) : Json :=
  .obj [("id", .str b.id), ("settings", b.settings.json)]

/-- The backend of a document. -/
def Backend.read? : Reader Backend := fun t => do
  let [id, settings] ← t.fields? ["id", "settings"] false | none
  some {
    id := ← withDefault text? "" id
    settings := ← withDefault BackendSettings.read? {} settings }

/-- A server as a document. -/
def Server.json (s : Server) : Json := .obj [("id", .str s.id), ("url", .str s.url)]

/-- The server of a document. -/
def Server.read? : Reader Server := fun t => do
  let [id, url] ← t.fields? ["id", "url"] false | none
  some { id := ← withDefault text? "" id, url := ← required text? url }

/-! ## Frontends and gates -/

/-- The settings of a frontend as a document. -/
def FrontendSettings.json (s : FrontendSettings) : Json :=
  .obj [("limits", .obj [("max_body_bytes", .ofNat s.maxBodyBytes)]),
    ("pass_host_header", .bool s.passHost), ("trust_forward_header", .bool s.trustForwarded)]

/-- The body limit of a document. -/
def maxBodyBytes? : Reader Nat := fun t => do
  let [most] ← t.fields? ["max_body_bytes"] false | none
  withDefault word? 0 most

/-- The frontend settings of a document. -/
def FrontendSettings.read? : Reader FrontendSettings := fun t => do
  let [pass, trust, limits] ←
    t.fields? ["pass_host_header", "trust_forward_header", "limits"] false | none
  some {
    passHost := ← withDefault flag? false pass
    trustForwarded := ← withDefault flag? false trust
    maxBodyBytes := ← withDefault maxBodyBytes? 0 limits }

/-- A frontend as a document. -/
def Frontend.json (f : Frontend) : Json :=
  .obj [("backend_id", .str f.backendId), ("id", .str f.id), ("route", .str f.route),
    ("settings", f.settings.json)]

/-- The frontend of a document. -/
def Frontend.read? : Reader Frontend := fun t => do
  let [id, route, backendId, settings] ←
    t.fields? ["id", "route", "backend_id", "settings"] false | none
  some {
    id := ← withDefault text? "" id
    route := ← required text? route
    backendId := ← required text? backendId
    settings := ← withDefault FrontendSettings.read? {} settings }

/-- A gate as a document. -/
def Gate.json (g : Gate) : Json :=
  .obj [("id", .str g.id), ("middleware", g.settings), ("priority", .ofInt g.priority),
    ("type", .str g.kind)]

/-- The gate of a document. -/
def Gate.read? : Reader Gate := fun t => do
  let [id, priority, kind, settings] ←
    t.fields? ["id", "priority", "type", "middleware"] false | none
  some {
    id := ← withDefault text? "" id
    priority := ← withDefault int32? 0 priority
    kind := ← required text? kind
    settings := ← required (any? (nestingLimit - 1)) settings }

/-- The entity that a text states, by the way it is read out of a tree. -/
def ofText? {α : Type} (read? : Reader α) (s : String) : Option α := (Tree.parse? s).bind read?

end Turnpike.Entity
