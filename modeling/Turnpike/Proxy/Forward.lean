/-
  Forwarding — a request sent on to a server of a pool.

  The endpoint whose turn it is gets the request.  How the exchange ends is up to the network: with
  a response, or with none, after some time.  A response that takes longer than the pool allows does
  not count; a request that takes longer than the proxy allows is abandoned, and nothing is recorded
  of it.
-/
import Turnpike.Balance.Pool
import Turnpike.Http.Response
import Turnpike.Proxy.Headers

namespace Turnpike.Proxy

open Turnpike.Http Turnpike.Balance

/-- A request as a server gets it. -/
structure Outbound where
  method : Method
  uri : Uri
  headers : Headers
  body : String
  deriving DecidableEq, Inhabited

/-- What the network makes of a request: a response, or none, after so many nanoseconds. -/
structure Reply where
  response : Option Response
  nanos : Nat := 0
  deriving DecidableEq, Repr, Inhabited

/-- A way to send requests to servers. -/
abbrev Network := Outbound → Reply

/-- How an exchange ends. -/
inductive Ending where
  | answered (r : Response)
  /-- The connection failed or broke. -/
  | broken
  /-- The pool waits no longer. -/
  | late
  /-- The proxy waits no longer. -/
  | abandoned
  deriving DecidableEq, Repr

/-- Has a limit been reached? -/
def reached (limit : Option Nat) (nanos : Nat) : Bool := limit.any (· ≤ nanos)

/-- How long the pool waits for a reply. -/
def Reply.waited (r : Reply) (readLimit : Option Nat) : Nat := min r.nanos (readLimit.getD r.nanos)

/-- How the exchange ends, given the limit of the pool and that of the proxy. -/
def Reply.ending (r : Reply) (readLimit requestLimit : Option Nat) : Ending :=
  if reached requestLimit (r.waited readLimit) then .abandoned
  else if reached readLimit r.nanos then .late
  else
    match r.response with
    | some resp => .answered resp
    | none => .broken

/-- What the endpoint records of an exchange. -/
def Ending.outcome? : Ending → Option Outcome
  | answered r => some (.status r.status)
  | broken | late => some .networkError
  | abandoned => none

/-- The response that an exchange leads to. -/
def Ending.response : Ending → Response
  | answered r => { r with headers := endToEnd r.headers }
  | broken => .failure 502 "upstream request failed"
  | late => .failure 504 "upstream timed out"
  | abandoned => { status := 408 }

/-- A pool after a request has been forwarded, with what came of it. -/
structure Forwarded where
  pool : Pool
  response : Response
  /-- How the request has ended; none when it was abandoned. -/
  outcome : Option Outcome
  /-- The time that it took. -/
  nanos : Nat := 0

/-- The request for an endpoint. -/
def outbound (s : Entity.FrontendSettings) (r : Request) (body : String) (authority : String)
    (uri : Uri) : Outbound where
  method := r.method
  uri := uri
  headers := outboundHeaders s r authority
  body := body

/-- The pool after an exchange with an endpoint that it had selected. -/
def afterExchange (p : Pool) (serial : Nat) (ending : Ending) (nanos : Nat) : Pool :=
  match ending.outcome? with
  | some o => (p.record serial o nanos).release serial
  | none => p.release serial

/-- Forwards a request, whose target has become `target`. -/
def forward (pool : Pool) (s : Entity.FrontendSettings) (r : Request) (target : Uri) (body : String)
    (requestLimit : Option Nat) (net : Network) : Forwarded :=
  match pool.select? with
  | none =>
    { pool := pool
      response := .failure 503 ("no servers available for backend " ++ pool.id)
      outcome := some (.status 503) }
  | some (p, e) =>
    match e.locate ((target.target?).getD "/") with
    | .error _ =>
      { pool := p.release e.serial
        response := .failure 502 "invalid upstream address"
        outcome := some .networkError }
    | .ok uri =>
      let reply := net (outbound s r body e.authority uri)
      let ending := reply.ending p.readLimit requestLimit
      let nanos := reply.waited p.readLimit
      { pool := afterExchange p e.serial ending nanos
        response := ending.response
        outcome := ending.outcome?
        nanos := nanos }

end Turnpike.Proxy
