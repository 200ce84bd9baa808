/-
  Requests handled by a proxy.

  A request is routed to a frontend; its body must not be longer than the frontend allows; the gates
  of the frontend are asked; and when they all admit it and have replaced its target, it is
  forwarded.  However it ends, the gates that admitted it are told, and the frontend records it.

  Every request has an identifier, which its response has too, unless it brings one of its own.
-/
import Turnpike.Proxy.Basic
import Turnpike.Proxy.Forward

namespace Turnpike.Proxy

open Turnpike.Text Turnpike.Http Turnpike.Gate

/-! ## Bodies -/

/-- A number of 64 bits that fills a text. -/
def word? (s : List Char) : Option Nat :=
  let ds := match s with
    | '+' :: r => r
    | r => r
  if ds ≠ [] ∧ ds.all Char.isDigit ∧ decimal ds < 0x10000000000000000 then some (decimal ds) else none

/-- The length of the body that the headers state. -/
def declaredLength? (h : Headers) : Option Nat := (h.text? "content-length").bind (word? ·.toList)

/-- May the body pass?  The length that is stated counts, before the one that it has. -/
def bodyFits (limit : Nat) (h : Headers) (body : String) : Bool :=
  limit == 0 || (declaredLength? h).getD body.utf8ByteSize ≤ limit

/-! ## Gates -/

/-- The gates of a service on a plaza of their own, each numbered by its place. -/
def openPlaza (a : Ambient) (c : Chain Instance) : Plaza :=
  { a with gates := (c.entries.map (·.gate)).toArray }

/-- The chain with its gates numbered by their places. -/
def numbered (c : Chain Instance) : Chain Serial :=
  ⟨c.entries.zipIdx.map fun (e, i) => ⟨e.id, e.priority, e.kind, i⟩⟩

/-- The chain with the gates as they stand on the plaza. -/
def closePlaza (p : Plaza) (c : Chain Instance) : Chain Instance :=
  ⟨c.entries.zipIdx.map fun (e, i) => { e with gate := (p.gate? i).getD e.gate }⟩

/-- What the gates of a chain say of a request: the target to ask for, or the response. -/
def passGates (p : Plaza) (t : Pipeline Serial) (target : Uri) :
    Plaza × Pipeline Serial × Except Response Uri :=
  match t.process Plaza.hooks p with
  | (t, p, .error e) => (p, t, .error (.ofError e))
  | (t, p, .ok (some r)) => (p, t, .error r)
  | (t, p, .ok none) =>
    match t.retarget Plaza.hooks p target with
    | (p, .ok u) => (p, t, .ok u)
    | (p, .error e) => (p, t, .error (.ofError e))

/-! ## Requests -/

/-- A proxy after a request, what is shared with it, and the response. -/
structure Handled where
  ambient : Ambient
  proxy : Proxy
  response : Response

/-- The error when a body is too long. -/
def tooLong (limit : Nat) : Response := .failure 413 s!"request body exceeds {limit} bytes"

/-- Sends a request that may have passed the gates on to the pool of its service. -/
def deliver (p : Proxy) (s : Service) (r : Request) (body : String) (net : Network) :
    Except Response Uri → Proxy × Response × Option Outcome × Nat
  | .error resp => (p, resp, some (.status resp.status), 0)
  | .ok target =>
    match p.cluster? s.cluster with
    | none =>
      let resp := Response.failure 503 ("no servers available for backend " ++ s.spec.backendId)
      (p, resp, some (.status 503), 0)
    | some c =>
      let f := forward c.pool s.spec.settings r target body p.options.requestLimit net
      (p.setPool c.serial f.pool, f.response, f.outcome, f.nanos)

/-- Tells the gates that have admitted a request how it has ended. -/
def settle (p : Plaza) (t : Pipeline Serial) (o : Option Outcome) (nanos : Nat) : Plaza :=
  let t := { t with request := { t.request with age := t.request.age + nanos } }
  ((o.map t.complete).getD t).leave Plaza.hooks p

/-- A service after a request has ended; one that was abandoned is not recorded. -/
def Service.record (s : Service) (o : Option Outcome) (nanos : Nat) : Service :=
  match o with
  | some o => { s with stats := s.stats.record o nanos }
  | none => s

/-- A proxy after an exchange with a server of a service, told from the others by its identifier. -/
def recordAt (p : Proxy) (s : Service) (id : String) (o : Outcome) (nanos : Nat) : Proxy :=
  match p.cluster? s.cluster with
  | none => p
  | some c =>
    match c.pool.get? id with
    | none => p
    | some e => p.setPool c.serial (c.pool.record e.serial o nanos)

/-- What is shared, with a request counted that has ended. -/
def countRequest (a : Ambient) (r : Request) (resp : Response) : Option Outcome → Ambient
  | some _ => a.count (.request r.method.name resp.status)
  | none => a

/-- Handles a request that is routed to a service. -/
def serve (a : Ambient) (p : Proxy) (s : Service) (r : Request) (body : String) (net : Network) :
    Handled :=
  if !bodyFits s.spec.settings.maxBodyBytes r.headers body then
    let resp := tooLong s.spec.settings.maxBodyBytes
    { ambient := a.count (.request r.method.name resp.status)
      proxy := p.setService (s.record (some (.status resp.status)) r.age)
      response := resp }
  else
    let (plaza, t, verdict) := passGates (openPlaza a s.chain) (.enter (numbered s.chain) r) r.uri
    let (p, resp, outcome, nanos) := deliver p s r body net verdict
    let plaza := settle plaza t outcome nanos
    let s := { s with chain := closePlaza plaza s.chain }
    { ambient := countRequest plaza.toAmbient r resp outcome
      proxy := p.setService (s.record outcome (r.age + nanos))
      response := resp }

/-- Handles a request. -/
def handle (a : Ambient) (p : Proxy) (r : Request) (body : String) (net : Network) : Handled :=
  match p.route? r.method r.host? r.uri.routePath with
  | none => ⟨a.count (.request r.method.name 404), p, .notFound⟩
  | some (s, params) =>
    p.serve a s { r with frontend := s.spec.id, params := params } body net

/-! ## Around requests -/

/-- The header with the identifier of a request. -/
def requestId : String := "x-request-id"

/-- The request with an identifier. -/
def identified (fresh : String) (r : Request) : Request :=
  if has r.headers requestId then r else { r with headers := r.headers.append requestId fresh }

/-- The response with the identifier of its request. -/
def Handled.identify (h : Handled) (r : Request) : Handled :=
  match r.headers.get? requestId with
  | some id =>
    if has h.response.headers requestId then h
    else { h with response := { h.response with headers := h.response.headers.append requestId id } }
  | none => h

/-- Does a response to such a request consist of its head alone?  That is so when only the head is
    asked for, and when a tunnel is granted. -/
def headOnly (m : Method) (status : Nat) : Bool :=
  m = .head || (m = .connect && 200 ≤ status && status < 300)

/-- The response without its body, where there must be none. -/
def Handled.cut (h : Handled) (r : Request) : Handled :=
  if headOnly r.method h.response.status then { h with response := { h.response with body := "" } }
  else h

/-- Answers a request.  Only targets with a path reach the routes.  A request without an identifier
    gets the fresh one. -/
def answer (a : Ambient) (p : Proxy) (r : Request) (body : String) (fresh : String)
    (net : Network) : Handled :=
  let r := identified fresh r
  let h :=
    if r.uri.routePath.toList.head? = some '/' then p.handle a r body net
    else ⟨a, p, { status := 404 }⟩
  (h.cut r).identify r

end Turnpike.Proxy
