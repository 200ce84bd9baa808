/-
  Payers — whom a request is charged to.

  A limiter counts under a token taken from the request: the address of the client, the host asked
  for, or the value of a header.  Every request is charged one.
-/
import Turnpike.Error
import Turnpike.Http.Request
import Turnpike.Route.Filter

namespace Turnpike.Traffic

open Turnpike.Text Turnpike.Http

/-- The part of a request that its token is taken from. -/
inductive Payer where
  | clientIp
  | requestHost
  | header (name : String)
  deriving DecidableEq, Repr

namespace Payer

/-- The payer that a variable names. -/
def parse (source : String) : Result Payer :=
  if source = "client.ip" then .ok .clientIp
  else if source = "request.host" then .ok .requestHost
  else
    match after? "request.header.".toList source.toList with
    | none | some [] => .error (.invalid s!"unsupported limiting variable '{source}'")
    | some name =>
      match headerName? (String.ofList name) with
      | some h => .ok (.header h)
      | none => .error (.invalid ("invalid header name '" ++ String.ofList name ++ "'"))

/-- The variable that names the payer. -/
def text : Payer → String
  | clientIp => "client.ip"
  | requestHost => "request.host"
  | header name => "request.header." ++ name

/-- The token of a host: without port, in lower case; none when nothing is left. -/
def hostToken? (host : String) : Option String :=
  let token := lowerAscii (Route.stripPort host)
  if token = "" then none else some token

/-- The token that a request is charged to. -/
def token (p : Payer) (r : Request) : Result String :=
  match p with
  | clientIp =>
    match r.client with
    | some a => .ok a.ip.text
    | none => .error (.mapping "client address is unknown")
  | requestHost =>
    match r.host?.bind hostToken? with
    | some t => .ok t
    | none => .error (.mapping "request has no host")
  | header name =>
    match (r.headers.text? name).filter (· != "") with
    | some t => .ok t
    | none => .error (.mapping s!"header '{name}' is missing")

/-- What one request is charged. -/
def charge : Nat := 1

end Payer

end Turnpike.Traffic
