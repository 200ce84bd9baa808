/-
  Pools — the endpoints of a backend, used in turn.

  Identifiers are distinct.  A server that is put again keeps its place, and as long as its URL is
  the same it also keeps its endpoint with all that was counted; a new one goes last.  Selections
  are counted by a machine word, which keeps counting when endpoints come and go.
-/
import Turnpike.Balance.Endpoint

namespace Turnpike.Balance

open Turnpike.Entity

/-- The endpoints of a backend. -/
structure Pool where
  id : String
  settings : BackendSettings
  endpoints : List Endpoint := []
  /-- The number of selections. -/
  turn : UInt64 := 0
  /-- The serial number of the next endpoint. -/
  nextSerial : Nat := 0
  deriving DecidableEq, Repr

namespace Pool

/-- The pool of a backend, without endpoints. -/
def ofBackend (b : Backend) : Pool := { id := b.id, settings := b.settings }

/-- The backend as an entity. -/
def backend (p : Pool) : Backend := ⟨p.id, p.settings⟩

/-- The endpoint with that identifier. -/
def get? (p : Pool) (id : String) : Option Endpoint := p.endpoints.find? (·.id == id)

/-- The pool with an endpoint put in place of the one with its identifier, or last. -/
def place (p : Pool) (e : Endpoint) : Pool :=
  { p with
    endpoints :=
      if p.endpoints.any (·.id == e.id) then
        p.endpoints.map fun f => if f.id = e.id then e else f
      else p.endpoints ++ [e]
    nextSerial := p.nextSerial + 1 }

/-- Puts a server.  One with the same URL is left as it is. -/
def upsert (p : Pool) (s : Server) : Result Pool := do
  s.check
  let url ← s.parsedUrl
  if (p.get? s.id).any (·.url.text == url.text) then .ok p
  else
    let e ← Endpoint.make p.nextSerial s
    .ok (p.place e)

/-- Removes a server. -/
def remove (p : Pool) (id : String) : Result Pool :=
  match p.get? id with
  | some _ => .ok { p with endpoints := p.endpoints.filter (·.id != id) }
  | none => .error (.notFound s!"server {p.id}.{id}")

/-- Changes the settings; the answer tells whether they were others before. -/
def configure (p : Pool) (s : BackendSettings) : Pool × Bool :=
  ({ p with settings := s }, p.settings != s)

/-- The pool with the endpoint of a serial number changed, if it is still there. -/
def modify (p : Pool) (serial : Nat) (f : Endpoint → Endpoint) : Pool :=
  { p with endpoints := p.endpoints.map fun e => if e.serial = serial then f e else e }

/-- The place of the endpoint whose turn it is, among so many. -/
def placeOf (turn : UInt64) (size : Nat) : Nat := turn.toNat % size

/-- Selects the endpoint whose turn it is, and counts a request to it as under way.  None when there
    are no endpoints. -/
def select? (p : Pool) : Option (Pool × Endpoint) :=
  match p.endpoints[placeOf p.turn p.endpoints.length]? with
  | none => none
  | some e => some ({ p.modify e.serial .acquire with turn := p.turn + 1 }, e.acquire)

/-- Counts a request to an endpoint as over. -/
def release (p : Pool) (serial : Nat) : Pool := p.modify serial .release

/-- Sums up a round trip to an endpoint. -/
def record (p : Pool) (serial : Nat) (o : Outcome) (nanos : Nat) : Pool :=
  p.modify serial (·.record o nanos)

/-- The time that a response may take, in nanoseconds. -/
def readLimit (p : Pool) : Option Nat := limitOf p.settings.timeouts.readMillis

/-- The sums over all endpoints. -/
def stats (p : Pool) : Stats := p.endpoints.foldl (fun s e => s.merge e.stats) {}

end Pool

end Turnpike.Balance
