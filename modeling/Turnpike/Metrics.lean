/-
  Metrics — named counters that only grow.

  Each series counts one kind of event, told apart by labels.  A tally holds the series that have
  grown, in the order of their names.
-/
import Turnpike.Dictionary

namespace Turnpike

/-- What is counted. -/
inductive Series where
  /-- A request answered, by its method and status. -/
  | request (method : String) (status : Nat)
  /-- A request turned away, by the reason. -/
  | rejected (reason : String)
  /-- A change applied, by its kind and whether it could be. -/
  | change (kind : String) (applied : Bool)
  /-- A restart after the feed had failed. -/
  | restart
  deriving DecidableEq, Repr

/-- A label with its value. -/
def Series.label (name value : String) : String := name ++ "=\x22" ++ value ++ "\x22"

/-- The name of a series with its labels. -/
def Series.text : Series → String
  | request method status =>
    "proxy_requests_total\x7b" ++ label "method" method ++ "," ++ label "status" (toString status) ++
      "\x7d"
  | rejected reason => "proxy_rejected_total\x7b" ++ label "reason" reason ++ "\x7d"
  | change kind applied =>
    "proxy_change_events_total\x7b" ++ label "kind" kind ++ "," ++
      label "result" (if applied then "ok" else "error") ++ "\x7d"
  | restart => "proxy_supervisor_restarts_total"

/-- How often each series has grown. -/
abbrev Tally := Dictionary Nat

/-- Counts one event. -/
def Tally.count (t : Tally) (s : Series) : Tally :=
  Dictionary.insert t s.text ((Dictionary.get? t s.text).getD 0 + 1)

end Turnpike
