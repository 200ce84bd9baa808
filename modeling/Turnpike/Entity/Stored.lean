/-
  Entities as they are put into the store.

  The stored document of an entity is an object with all its fields, nested as the entity is and in
  the order in which the entity has them.  This is not the order of their names; the document is only
  there to be written.
-/
import Turnpike.Entity.Change
import Turnpike.Json.Writer
import Turnpike.Store.Basic

namespace Turnpike

namespace Entity

/-- A host as it is stored. -/
def Host.stored (h : Host) : Json := .obj [("name", .str h.name)]

/-- An address as it is stored. -/
def Address.stored (a : Address) : Json :=
  .obj [("network", .str a.network), ("address", .str a.address)]

/-- A listener as it is stored. -/
def Listener.stored (l : Listener) : Json :=
  .obj [("id", .str l.id), ("protocol", .str l.protocol), ("address", l.address.stored)]

/-- Time limits as they are stored. -/
def Timeouts.stored (t : Timeouts) : Json :=
  .obj [("read_ms", .ofNat t.readMillis), ("dial_ms", .ofNat t.dialMillis)]

/-- Keep-alive settings as they are stored. -/
def KeepAlive.stored (k : KeepAlive) : Json :=
  .obj [("idle_ms", .ofNat k.idleMillis), ("max_idle_per_host", .ofNat k.maxIdlePerHost)]

/-- The settings of a backend as they are stored. -/
def BackendSettings.stored (s : BackendSettings) : Json :=
  .obj [("timeouts", s.timeouts.stored), ("keep_alive", s.keepAlive.stored)]

/-- A backend as it is stored. -/
def Backend.stored (b : Backend) : Json :=
  .obj [("id", .str b.id), ("settings", b.settings.stored)]

/-- A server as it is stored. -/
def Server.stored (s : Server) : Json := .obj [("id", .str s.id), ("url", .str s.url)]

/-- The body limit of a frontend as it is stored. -/
def storedLimits (most : Nat) : Json := .obj [("max_body_bytes", .ofNat most)]

/-- The settings of a frontend as they are stored. -/
def FrontendSettings.stored (s : FrontendSettings) : Json :=
  .obj [("pass_host_header", .bool s.passHost), ("trust_forward_header", .bool s.trustForwarded),
    ("limits", storedLimits s.maxBodyBytes)]

/-- A frontend as it is stored. -/
def Frontend.stored (f : Frontend) : Json :=
  .obj [("id", .str f.id), ("route", .str f.route), ("backend_id", .str f.backendId),
    ("settings", f.settings.stored)]

/-- A gate as it is stored. -/
def Gate.stored (g : Gate) : Json :=
  .obj [("id", .str g.id), ("priority", .ofInt g.priority), ("type", .str g.kind),
    ("middleware", g.settings)]

/-- An entity as it is stored.  Its parent stands in the key. -/
def Upsert.stored : Upsert → Json
  | .host h => h.stored
  | .listener l => l.stored
  | .backend b => b.stored
  | .server _ s => s.stored
  | .frontend f => f.stored
  | .gate _ g => g.stored

end Entity

/-- Puts the text of a value under a key. -/
def Store.putJson (s : Store) (key : String) (value : Json) : Store := s.put key value.text

end Turnpike
