/-
  Pipelines — one request on its way through a chain.

  A request keeps the chain that it found.  The gates are asked in order, until one answers or
  fails; those that have admitted the request may replace its target, and when the request has ended
  each of them is told so once, the last one first.

  What gates do is given by `Hooks`: each may read and change a state that all gates share.
-/
import Turnpike.Gate.Chain
import Turnpike.Http.Request
import Turnpike.Http.Response
import Turnpike.Stats

namespace Turnpike.Gate

open Turnpike.Http

/-- What a gate says of a request: nothing when it admits it, a response, or an error. -/
abbrev Verdict := Result (Option Response)

/-- What gates do; `ι` stands for gates and `σ` is the state that they share. -/
structure Hooks (ι σ : Type) where
  screen : ι → Request → σ → σ × Verdict
  retarget : ι → Request → Uri → σ → σ × Result Uri
  settle : ι → Request → Option Outcome → σ → σ

/-- A request under way through a chain. -/
structure Pipeline (ι : Type) where
  entries : List (Entry ι)
  request : Request
  /-- The number of gates that have admitted the request. -/
  admitted : Nat := 0
  outcome : Option Outcome := none

namespace Pipeline

variable {ι σ : Type}

/-- A request at the start of a chain. -/
def enter (c : Chain ι) (r : Request) : Pipeline ι := { entries := c.entries, request := r }

/-- Asks the given gates in order. -/
def ask (h : Hooks ι σ) (p : Pipeline ι) (s : σ) : List (Entry ι) → Pipeline ι × σ × Verdict
  | [] => (p, s, .ok none)
  | e :: r =>
    match h.screen e.gate p.request s with
    | (s, .error err) => (p, s, .error err)
    | (s, .ok (some resp)) =>
      ({ p with outcome := some (.status resp.status) }, s, .ok (some resp))
    | (s, .ok none) => ask h { p with admitted := p.admitted + 1 } s r

/-- Asks the gates that have not admitted the request yet. -/
def process (h : Hooks ι σ) (p : Pipeline ι) (s : σ) : Pipeline ι × σ × Verdict :=
  p.ask h s (p.entries.drop p.admitted)

/-- The gates that have admitted the request. -/
def passed (p : Pipeline ι) : List (Entry ι) := p.entries.take p.admitted

/-- Lets the given gates replace a target, one after the other. -/
def retargetBy (h : Hooks ι σ) (r : Request) (s : σ) (u : Uri) :
    List (Entry ι) → σ × Result Uri
  | [] => (s, .ok u)
  | e :: es =>
    match h.retarget e.gate r u s with
    | (s, .ok u) => retargetBy h r s u es
    | (s, .error err) => (s, .error err)

/-- Lets the gates that have admitted the request replace a target. -/
def retarget (h : Hooks ι σ) (p : Pipeline ι) (s : σ) (u : Uri) : σ × Result Uri :=
  retargetBy h p.request s u p.passed

/-- Notes how the request has ended. -/
def complete (p : Pipeline ι) (o : Outcome) : Pipeline ι := { p with outcome := some o }

/-- Tells the gates that have admitted the request that it is over, the last one first. -/
def leave (h : Hooks ι σ) (p : Pipeline ι) (s : σ) : σ :=
  p.passed.reverse.foldl (fun s e => h.settle e.gate p.request p.outcome s) s

end Pipeline

end Turnpike.Gate
