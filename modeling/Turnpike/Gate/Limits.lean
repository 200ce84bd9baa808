/-
  Gates that limit — how often a payer may ask, and how many of its requests may be in flight.

  Both take a token from the request and count under it.  The limit on requests in flight counts a
  request until it has ended.
-/
import Turnpike.Http.Response
import Turnpike.Json.Shape
import Turnpike.Traffic.Connections
import Turnpike.Traffic.Limiter
import Turnpike.Traffic.Payer

namespace Turnpike.Gate

open Turnpike.Json Turnpike.Http Turnpike.Traffic

/-! ## Rates -/

/-- The settings of a limit on rates: so many requests in a period of seconds, and how many at once.
    A burst of zero stands for all of a period at once. -/
structure RateSettings where
  payer : String := "client.ip"
  requests : Nat
  periodSeconds : Nat := 1
  burst : Nat := 0
  deriving DecidableEq, Repr, Inhabited

/-- The settings of a document. -/
def RateSettings.read? : Reader RateSettings := fun t => do
  let [payer, requests, period, burst] ←
    t.fields? ["variable", "requests", "period_seconds", "burst"] false | none
  some {
    payer := ← withDefault text? "client.ip" payer
    requests := ← required word? requests
    periodSeconds := ← withDefault word? 1 period
    burst := ← withDefault word? 0 burst }

/-- The settings as a document. -/
def RateSettings.json (s : RateSettings) : Json :=
  .obj [("burst", .ofNat s.burst), ("period_seconds", .ofNat s.periodSeconds),
    ("requests", .ofNat s.requests), ("variable", .str s.payer)]

/-- A limit on rates. -/
structure RateLimit where
  settings : RateSettings
  payer : Payer
  limiter : Limiter
  deriving DecidableEq

/-- The limit of these settings. -/
def RateLimit.make (s : RateSettings) : Result RateLimit := do
  let payer ← Payer.parse s.payer
  let rate ← Rate.make s.requests (s.periodSeconds * 1000000000)
  let burst := if s.burst = 0 then s.requests else s.burst
  .ok ⟨s, payer, .make rate burst usualCapacity⟩

/-- Charges a request at `now`.  One that has to wait is answered with the time to wait. -/
def RateLimit.screen (g : RateLimit) (now : Nat) (r : Request) :
    RateLimit × Result (Option Response) :=
  match g.payer.token r with
  | .error e => (g, .error e)
  | .ok token =>
    let (limiter, answer) := g.limiter.consume token now Payer.charge
    ({ g with limiter := limiter },
      answer.map fun wait =>
        if wait = 0 then none else some (.tooMany "rate limit exceeded" (some wait)))

/-! ## Requests in flight -/

/-- The settings of a limit on requests in flight. -/
structure FlightSettings where
  payer : String := "client.ip"
  connections : Nat
  deriving DecidableEq, Repr, Inhabited

/-- The settings of a document. -/
def FlightSettings.read? : Reader FlightSettings := fun t => do
  let [payer, connections] ← t.fields? ["variable", "connections"] false | none
  some {
    payer := ← withDefault text? "client.ip" payer
    connections := ← required word? connections }

/-- The settings as a document. -/
def FlightSettings.json (s : FlightSettings) : Json :=
  .obj [("connections", .ofNat s.connections), ("variable", .str s.payer)]

/-- A limit on requests in flight. -/
structure FlightLimit where
  settings : FlightSettings
  payer : Payer
  connections : Connections
  deriving DecidableEq

/-- The limit of these settings, which has to let something through. -/
def FlightLimit.make (s : FlightSettings) : Result FlightLimit := do
  if s.connections = 0 then .error (.invalid "connlimit connections must be positive")
  else
    let payer ← Payer.parse s.payer
    .ok ⟨s, payer, .make s.connections⟩

/-- Counts a request, if there is room for it. -/
def FlightLimit.screen (g : FlightLimit) (r : Request) : FlightLimit × Result (Option Response) :=
  match g.payer.token r with
  | .error e => (g, .error e)
  | .ok token =>
    match g.connections.acquire? token Payer.charge with
    | some c => ({ g with connections := c }, .ok none)
    | none => (g, .ok (some (.tooMany "connection limit reached" none)))

/-- Counts a request no longer. -/
def FlightLimit.settle (g : FlightLimit) (r : Request) : FlightLimit :=
  match g.payer.token r with
  | .error _ => g
  | .ok token => { g with connections := g.connections.release token Payer.charge }

end Turnpike.Gate
