/-
  Requests as the gates of a frontend see them.
-/
import Turnpike.Address.Socket
import Turnpike.Http.Header
import Turnpike.Http.Method
import Turnpike.Http.Uri

namespace Turnpike.Http

/-- A request. -/
structure Request where
  method : Method := .get
  uri : Uri := { path := "/" }
  headers : Headers := {}
  /-- The address it came from, when that is known. -/
  client : Option Address.Socket := none
  /-- The frontend that its route belongs to. -/
  frontend : String := ""
  /-- The parameters that its route captured. -/
  params : List (String × String) := []
  /-- The time since it was received, in nanoseconds, when its outcome is recorded. -/
  age : Nat := 0
  deriving DecidableEq, Inhabited

/-- The request that consists of these texts, if each of them can stand in a request. -/
def Request.ofTexts? (method uri : String) (fields : List (String × String)) : Option Request := do
  let method ← Method.ofString? method
  let uri ← Uri.parse? uri
  let fields ← fields.mapM fun (n, v) => (headerName? n).map fun name => (name, v)
  if fields.all (isValue ·.2) then some { method, uri, headers := .ofList fields } else none

/-- The host: the authority of the target, or else the host header. -/
def Request.host? (r : Request) : Option String :=
  match r.uri.authority with
  | some a => some a
  | none => r.headers.text? "host"

end Turnpike.Http
