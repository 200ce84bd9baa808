/-
  Responses, and those that the proxy makes itself.

  A failure is told as a JSON object with the message and the status.
-/
import Turnpike.Error
import Turnpike.Http.Header
import Turnpike.Json.Writer

namespace Turnpike.Http

/-- A response. -/
structure Response where
  status : Nat
  headers : Headers := {}
  body : String := ""
  deriving DecidableEq, Repr, Inhabited

namespace Response

/-- A failure as a JSON object. -/
def failure (status : Nat) (message : String) : Response where
  status := status
  headers := .ofList [("content-type", "application/json")]
  body := (Json.object [("error", .str message), ("status", .ofNat status)]).text

/-- The response to a request that met an error. -/
def ofError (e : Error) : Response := failure e.status e.message

/-- A number of nanoseconds in whole seconds, rounded up. -/
def wholeSeconds (nanos : Nat) : Nat := (nanos + 999999999) / 1000000000

/-- The response to a request over a limit.  When the wait is known it is told in whole seconds, at
    least one. -/
def tooMany (message : String) (wait : Option Nat) : Response :=
  let r := failure 429 message
  match wait with
  | none => r
  | some nanos =>
    { r with headers := r.headers.set "retry-after" (toString (max (wholeSeconds nanos) 1)) }

/-- A redirection.  A location that no header can hold is a failure. -/
def found (location : String) : Response :=
  if isValue location then { status := 302, headers := .ofList [("location", location)] }
  else failure 500 "invalid redirect location"

/-- The response when no route matches. -/
def notFound : Response := failure 404 "no route matched the request"

end Response

end Turnpike.Http
