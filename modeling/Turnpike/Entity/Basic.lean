/-
  The entities of a configuration.

  Hosts, listeners, backends with their servers, and frontends with their gates.  A gate is a
  middleware of a frontend: it may refuse, answer or retarget a request.  Each entity is known by an
  identifier that is not empty and holds no slash; servers and gates belong to a backend or a
  frontend and are known within it.

  `check` says of an entity everything that can be said without the rest of the configuration.
-/
import Turnpike.Error
import Turnpike.Json.Value
import Turnpike.Route.Router
import Turnpike.Url.Parser

namespace Turnpike.Entity

open Turnpike.Text

/-- A host name that is served. -/
structure Host where
  name : String
  deriving DecidableEq, Repr, Inhabited

/-- Where a listener binds. -/
structure Address where
  network : String := "tcp"
  address : String
  deriving DecidableEq, Repr, Inhabited

/-- A socket to listen on. -/
structure Listener where
  id : String
  protocol : String := "http"
  address : Address
  deriving DecidableEq, Repr, Inhabited

/-- Time limits towards servers in milliseconds; zero stands for none. -/
structure Timeouts where
  readMillis : Nat := 0
  dialMillis : Nat := 0
  deriving DecidableEq, Repr, Inhabited

/-- How long idle connections are kept, and how many. -/
structure KeepAlive where
  idleMillis : Nat := 90000
  maxIdlePerHost : Nat := 32
  deriving DecidableEq, Repr, Inhabited

/-- The settings of a backend. -/
structure BackendSettings where
  timeouts : Timeouts := {}
  keepAlive : KeepAlive := {}
  deriving DecidableEq, Repr, Inhabited

/-- A group of servers. -/
structure Backend where
  id : String
  settings : BackendSettings := {}
  deriving DecidableEq, Repr, Inhabited

/-- A server of a backend. -/
structure Server where
  id : String
  url : String
  deriving DecidableEq, Repr, Inhabited

/-- The settings of a frontend.  A body limit of zero stands for none. -/
structure FrontendSettings where
  passHost : Bool := false
  trustForwarded : Bool := false
  maxBodyBytes : Nat := 0
  deriving DecidableEq, Repr, Inhabited

/-- A route with the backend that its requests go to. -/
structure Frontend where
  id : String
  route : String
  backendId : String
  settings : FrontendSettings := {}
  deriving DecidableEq, Repr, Inhabited

/-- A gate of a frontend: its place among the others, its kind, and settings that only gates of that
    kind can read. -/
structure Gate where
  id : String
  priority : Int := 0
  kind : String
  settings : Json
  deriving Repr, Inhabited

/-! ## Validity -/

/-- An identifier is not empty and holds no slash. -/
def checkId (what id : String) : Result Unit :=
  if id = "" then .error (.invalid (what ++ " id can not be empty"))
  else if id.toList.contains '/' then .error (.invalid s!"{what} id '{id}' contains '/'")
  else .ok ()

/-- A host is valid when its name is. -/
def Host.check (h : Host) : Result Unit := checkId "host" h.name

/-- A listener speaks plain HTTP over TCP, at an address with a port. -/
def Listener.check (l : Listener) : Result Unit := do
  checkId "listener" l.id
  let protocol := lowerAscii l.protocol
  if protocol = "https" then .error (.invalid s!"listener {l.id}: https listeners are not supported")
  else if protocol ≠ "http" then
    .error (.invalid s!"listener {l.id}: unsupported protocol '{protocol}'")
  else if !sameLetters l.address.network "tcp" then
    .error (.invalid s!"listener {l.id}: unsupported network '{l.address.network}'")
  else if !l.address.address.toList.contains ':' then
    .error (.invalid s!"listener {l.id}: address '{l.address.address}' must be host:port")
  else .ok ()

/-- A backend is valid when its identifier is. -/
def Backend.check (b : Backend) : Result Unit := checkId "backend" b.id

/-- The URL of a server: an HTTP URL with a host. -/
def Server.parsedUrl (s : Server) : Result Url :=
  match Url.parse s.url with
  | .ok u =>
    if u.scheme = "http" ∧ u.host.isSome then .ok u
    else .error (.invalid s!"server url '{s.url}' is not valid")
  | .error _ => .error (.invalid s!"server url '{s.url}' is not valid")

/-- A server has a valid identifier and a valid URL. -/
def Server.check (s : Server) : Result Unit := do
  checkId "server" s.id
  let _ ← s.parsedUrl

/-- A frontend names itself and its backend, and its route is well formed. -/
def Frontend.check (f : Frontend) : Result Unit := do
  checkId "frontend" f.id
  checkId "backend" f.backendId
  let _ ← Route.Router.compile f.route

/-- A gate has a valid identifier and some kind. -/
def Gate.check (g : Gate) : Result Unit := do
  checkId "middleware" g.id
  if g.kind = "" then .error (.invalid s!"middleware {g.id} has no type") else .ok ()

/-- A time limit in nanoseconds, unless it is switched off. -/
def limitOf (millis : Nat) : Option Nat := if millis = 0 then none else some (millis * 1000000)

end Turnpike.Entity
