/-
  Probes — gates that do what they are told, and say so in a journal.

  A probe admits, answers or fails every request, and puts its name before every target it is asked
  to retarget, or fails at that.  With probes in a chain one can see which gates a request passes,
  and in which order.
-/
import Turnpike.Http.Request
import Turnpike.Http.Response
import Turnpike.Json.Shape
import Turnpike.Stats

namespace Turnpike.Gate

open Turnpike.Json Turnpike.Http

/-- What a probe does. -/
structure Probe where
  name : String
  respond : Option Nat := none
  fail : Option String := none
  failRetarget : Option String := none
  deriving DecidableEq, Repr, Inhabited

/-- The probe of a document. -/
def Probe.read? : Reader Probe := fun t => do
  let [name, respond, fail, failRetarget] ←
    t.fields? ["name", "respond", "fail", "fail_rewrite"] true | none
  some {
    name := ← withDefault text? "" name
    respond := ← withDefault (nullable? (natBelow? 65536)) none respond
    fail := ← withDefault (nullable? text?) none fail
    failRetarget := ← withDefault (nullable? text?) none failRetarget }

/-- What a probe notes of a request. -/
def Probe.requestNote (p : Probe) (r : Request) : String :=
  "req:" ++ p.name ++ ":" ++ r.method.name ++ ":" ++ (r.host?).getD "-"

/-- Text of an outcome, or of there being none. -/
def outcomeText : Option Outcome → String
  | none => "none"
  | some .networkError => "network_error"
  | some (.status n) => toString n

/-- What a probe notes of how a request ended. -/
def Probe.outcomeNote (p : Probe) (o : Option Outcome) : String :=
  "resp:" ++ p.name ++ ":" ++ outcomeText o

/-- Admits, answers or fails. -/
def Probe.screen (p : Probe) : Result (Option Response) :=
  match p.fail, p.respond with
  | some what, _ => .error (.mapping what)
  | none, some status => .ok (some { status := status })
  | none, none => .ok none

/-- Puts the name before the target. -/
def Probe.retarget (p : Probe) (u : Uri) : Result Uri :=
  match p.failRetarget with
  | some what => .error (.invalid what)
  | none =>
    match Uri.parse? ("/" ++ p.name ++ u.text) with
    | some v => .ok v
    | none => .error (.invalid s!"rewritten url '{u.text}' is not valid")

end Turnpike.Gate
