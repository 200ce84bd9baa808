/-
  Endpoints — servers as the proxy talks to them.

  An endpoint has the URL of its server in normal form, the authority to connect to, and the path
  that stands before every target; it counts the requests under way to it and sums up its round
  trips.  Its serial number tells it apart from an earlier endpoint of the same identifier.
-/
import Turnpike.Entity.Basic
import Turnpike.Http.Uri
import Turnpike.Stats

namespace Turnpike.Balance

open Turnpike.Text Turnpike.Http

/-- A server that requests can be sent to. -/
structure Endpoint where
  serial : Nat
  id : String
  url : Url
  /-- Host and port. -/
  authority : String
  /-- The path of the URL without the slashes at its end. -/
  basePath : String
  /-- The number of requests under way. -/
  active : Nat := 0
  stats : Stats := {}
  deriving DecidableEq, Repr

namespace Endpoint

/-- The endpoint of a server.  Fails when its host cannot stand in a request. -/
def make (serial : Nat) (s : Entity.Server) : Result Endpoint := do
  let url ← s.parsedUrl
  let authority := ((url.host.map Url.Host.text).getD "") ++ ":" ++ toString url.effectivePort
  if isAuthority authority.toList then
    .ok {
      serial := serial
      id := s.id
      url := url
      authority := authority
      basePath := String.ofList (trimEnd '/' url.path.toList) }
  else .error (.invalid s!"server {s.id}: invalid uri character")

/-- The URL that a target is asked for at. -/
def locate (e : Endpoint) (target : String) : Result Uri :=
  match pathAndQuery? (e.basePath ++ target).toList with
  | some (path, query) =>
    .ok { scheme := some "http", authority := some e.authority, path := path, query := query }
  | none => .error (.invalid "upstream uri: invalid uri character")

/-- The server as an entity, with its URL in normal form. -/
def server (e : Endpoint) : Entity.Server := ⟨e.id, e.url.text⟩

/-- One more request under way. -/
def acquire (e : Endpoint) : Endpoint := { e with active := e.active + 1 }

/-- One request under way less. -/
def release (e : Endpoint) : Endpoint := { e with active := e.active - 1 }

/-- Sums up one more round trip. -/
def record (e : Endpoint) (o : Outcome) (nanos : Nat) : Endpoint :=
  { e with stats := e.stats.record o nanos }

end Endpoint

end Turnpike.Balance
