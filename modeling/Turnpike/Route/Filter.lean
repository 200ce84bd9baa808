/-
  Filters — the conditions of a route other than its path.

  A filter looks at the method and the host of a request.  Hosts compare after the port has been
  cut from the request's side, up to the case of ASCII letters; the host a filter expects is put
  into lower case once, when the filter is made.
-/
import Turnpike.Text.Lowercase
import Turnpike.Text.Ascii
import Turnpike.Route.Pattern

namespace Turnpike.Route

open Turnpike.Text Turnpike.Http

/-- What a filter may look at. -/
structure View where
  method : Method
  host : Option String

/-- A host text without the port that follows it.  An address in square brackets keeps its colons:
    everything behind the first closing bracket goes.  Elsewhere the part behind the last colon is
    a port when it holds digits only, or nothing. -/
def withoutPort (host : List Char) : List Char :=
  match host with
  | '[' :: r =>
    match splitFirst? ']' r with
    | some (address, _) => '[' :: address ++ [']']
    | none => host
  | _ =>
    match splitLast? ':' host with
    | some (name, port) => if port.all Char.isDigit then name else host
    | none => host

/-- A host string without the port that follows it. -/
def stripPort (host : String) : String := String.ofList (withoutPort host.toList)

/-- A condition on method and host. -/
inductive Filter where
  | host (expected : String)
  | methods (allowed : List Method)
  | all (parts : List Filter)

/-- The filter that lets one host pass. -/
def Filter.forHost (host : String) : Filter := .host (lowercase host)

mutual

/-- Does the request meet the condition?  A request without a host meets no condition on hosts. -/
def Filter.accepts (v : View) : Filter → Bool
  | .host expected =>
    match v.host with
    | some h => sameLetters (stripPort h) expected
    | none => false
  | .methods allowed => allowed.contains v.method
  | .all parts => Filter.acceptsAll v parts

/-- Does the request meet every one of the conditions? -/
def Filter.acceptsAll (v : View) : List Filter → Bool
  | [] => true
  | f :: fs => f.accepts v && Filter.acceptsAll v fs

end

theorem Filter.acceptsAll_eq (v : View) (fs : List Filter) :
    Filter.acceptsAll v fs = fs.all (·.accepts v) := by
  induction fs with
  | nil => rfl
  | cons f fs ih => simp [Filter.acceptsAll, ih]

/-- The conditions of a pattern. -/
def Pattern.filter (p : Pattern) : Filter :=
  .all ((p.methods.map .methods).toList ++ (p.host.map .forHost).toList)

example : stripPort "[::1]:80" = "[::1]" ∧ stripPort "a:b:80" = "a:b" ∧ stripPort "h:" = "h" := by
  cbv

end Turnpike.Route
