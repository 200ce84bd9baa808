/-
  Summaries — one line on each of the larger parts.

  A summary is the name of the part with its most telling figures in braces.  A span of time is
  shown in the greatest unit in which it is one at least, with as many places as it needs.
-/
import Turnpike.Supervisor.Basic
import Turnpike.Text.Quoted
import Turnpike.Traffic.Limiter

namespace Turnpike

/-- The name of a part with its figures. -/
def summaryOf (name : String) (figures : List (String × String)) : String :=
  name ++ " \x7b " ++ ", ".intercalate (figures.map fun (k, v) => k ++ ": " ++ v) ++ " \x7d"

/-- A number in units of which each has so many parts, to as many places as it needs. -/
def unitsText (parts n : Nat) : String :=
  let places := (toString (parts + n % parts)).toList.drop 1
  let kept := (places.reverse.dropWhile (· == '0')).reverse
  toString (n / parts) ++ if kept = [] then "" else "." ++ String.ofList kept

/-- A span of time, given in nanoseconds. -/
def spanText (nanos : Nat) : String :=
  if 1000000000 ≤ nanos then unitsText 1000000000 nanos ++ "s"
  else if 1000000 ≤ nanos then unitsText 1000000 nanos ++ "ms"
  else if 1000 ≤ nanos then unitsText 1000 nanos ++ "µs"
  else toString nanos ++ "ns"

/-- A router. -/
def Route.Router.summary {α : Type} (r : Router α) : String :=
  summaryOf "Router" [("routes", toString r.size)]

/-- A store. -/
def Store.summary (s : Store) : String :=
  summaryOf "MemoryStore" [("revision", toString s.revision), ("keys", toString s.entries.size)]

/-- A feed, by the layout of its keys. -/
def Feed.Layout.summary (l : Layout) : String :=
  summaryOf "ChangeFeed" [("keys", summaryOf "Keys" [("prefix", Text.Quoted.quoted l.stem)])]

/-- A rate. -/
def Traffic.Rate.summary (r : Rate) : String :=
  summaryOf "Rate" [("units", toString r.units), ("period", spanText r.period)]

/-- A limiter. -/
def Traffic.Limiter.summary (l : Limiter) : String :=
  summaryOf "TokenLimiter" [("rate", l.rate.summary), ("burst", toString l.burst)]

/-- The kinds of gates that can be built. -/
def Gate.Registry.summary (r : Registry) : String :=
  summaryOf "MiddlewareRegistry"
    [("kinds", "[" ++ ", ".intercalate (r.names.map Text.Quoted.quoted) ++ "]")]

/-- The options of a proxy. -/
def Proxy.Options.summary (o : Options) : String :=
  let shown {α : Type} (f : α → String) (a : Option α) :=
    (a.map fun a => "Some(" ++ f a ++ ")").getD "None"
  summaryOf "ServerOptions" [("default_listener", shown (·.id) o.defaultListener),
    ("drain_timeout", spanText o.drainNanos), ("request_timeout", shown spanText o.requestLimit)]

/-- The options of a supervisor. -/
def Supervisor.Options.summary (o : Options) : String :=
  summaryOf "SupervisorOptions" [("retry_period", spanText o.retryNanos),
    ("max_restart_attempts", toString o.maxAttempts), ("changes_buffer", toString o.buffer)]

/-- A supervisor. -/
def Supervisor.summary (s : Supervisor) : String :=
  summaryOf "Supervisor" [("state", s.state.text.capitalize), ("restarts", toString s.restarts)]

example : spanText 1500000000 = "1.5s" := by decide +kernel
example : spanText 1000000 = "1ms" := by decide +kernel

end Turnpike
