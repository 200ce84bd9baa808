/-
  Views of plain figures — errors, statistics, responses and route patterns as documents.

  Each view is an object with all that can be asked of the value.  Computed floating-point figures
  are shown by their bits, so that nothing is lost to rounding.
-/
import Turnpike.Http.Response
import Turnpike.Json.Reader
import Turnpike.Route.Compile
import Turnpike.Stats
import Turnpike.Text.Quoted

namespace Turnpike

open Turnpike.Json

/-! ## Errors -/

/-- The name of the cause of an error. -/
def Error.kind : Error → String
  | .syntaxError .. | .badPattern _ => "Syntax"
  | .notFound _ => "NotFound"
  | .alreadyExists _ => "AlreadyExists"
  | .invalid _ => "InvalidFormat"
  | .conflict _ => "Conflict"
  | .feed _ => "Feed"
  | .tokensExceedBurst .. => "TokensExceedBurst"
  | .mapping _ => "Mapping"
  | .decode _ => "Decode"
  | .io => "Io"
  | .fatal _ => "Fatal"

/-- The error of a kind, from its texts or its numbers. -/
def Error.ofKind? (kind a b : String) (requested capacity : Nat) : Option Error :=
  match kind with
  | "Syntax" | "RouteSyntax" => some (.syntaxError a b)
  | "NotFound" => some (.notFound a)
  | "AlreadyExists" => some (.alreadyExists a)
  | "InvalidFormat" => some (.invalid a)
  | "Conflict" => some (.conflict a)
  | "Feed" => some (.feed a)
  | "TokensExceedBurst" => some (.tokensExceedBurst requested capacity)
  | "Mapping" => some (.mapping a)
  | "Decode" => some (.decode a)
  | "Io" => some .io
  | "Fatal" => some (.fatal a)
  | _ => none

/-- An error with its cause, its status code and, where it has one, its wording. -/
def Error.view (e : Error) : Json :=
  object ([("error", .str e.kind), ("status", ofNat e.status)] ++
    if e = .io then [] else [("message", .str e.message)])

/-! ## Statistics -/

/-- The sixteen hexadecimal digits of a word. -/
def hexDigits (n : UInt64) : String :=
  let ds := Text.Quoted.hex n.toNat
  String.ofList (List.replicate (16 - ds.length) '0' ++ ds)

/-- A floating-point figure, by its bits. -/
def floatView (f : Float) : Json := .str ("f64:" ++ hexDigits f.toBits)

/-- How a request ended; null when it was given up. -/
def outcomeView : Option Outcome → Json
  | none => .null
  | some .networkError => .str "network_error"
  | some (.status n) => ofNat n

/-- The outcome of a view; the inner part is missing when the request was given up. -/
def outcomeOf? : Json → Option (Option Outcome)
  | .null => some none
  | .str "network_error" => some (some .networkError)
  | .num (.nat n) => if 100 ≤ n && n ≤ 999 then some (some (.status n)) else none
  | _ => none

/-- Counts and rates, and latencies if they are asked for. -/
def Stats.view (s : Stats) (latency : Bool) : Json :=
  let word (n : UInt64) := ofNat n.toNat
  object ([("requests", word s.requests), ("network_errors", word s.networkErrors),
    ("status_2xx", word s.status2xx), ("status_3xx", word s.status3xx),
    ("status_4xx", word s.status4xx), ("status_5xx", word s.status5xx),
    ("failures", word s.failures), ("failure_rate", floatView s.failureRate)] ++
    if latency then
      [("latency_total_us", word s.latencyMicros), ("mean_latency_us", word s.meanMicros)]
    else [])

/-- The counts of a view; those that are missing are zero. -/
def Stats.ofView (j : Json) : Stats :=
  let word (name : String) :=
    match j.field? name with
    | some (.num (.nat n)) => UInt64.ofNat n
    | _ => 0
  { requests := word "requests"
    networkErrors := word "network_errors"
    status2xx := word "status_2xx"
    status3xx := word "status_3xx"
    status4xx := word "status_4xx"
    status5xx := word "status_5xx"
    latencyMicros := word "latency_total_us" }

/-! ## Responses -/

/-- The body of a response: a document where it says so and is one, and a text otherwise. -/
def Http.Response.bodyView (r : Response) : Json :=
  match r.headers.get? "content-type" with
  | some "application/json" => (parse? r.body).getD (.str r.body)
  | _ => .str r.body

/-- A response; its headers in the order of their names, without the length of the body. -/
def Http.Response.view (r : Response) : Json :=
  let fields := r.headers.fields.filter (·.1 != "content-length")
  object [("status", ofNat r.status), ("headers", ofPairs (fields.mergeSort fun a b => a.1 ≤ b.1)),
    ("body", r.bodyView)]

/-! ## Routes -/

/-- A segment of a path: a byte by its number, a parameter by its name. -/
def Route.Segment.view : Segment → Json
  | .byte b => ofNat b.toNat
  | .param name => .str name

/-- A pattern with its canonical expression. -/
def Route.Pattern.view (p : Pattern) : Json :=
  object [("canonical", .str p.canonical), ("host", ofOption .str p.host),
    ("methods", ofOption (fun ms => ofTexts (ms.map (·.name))) p.methods),
    ("path", .arr (p.path.map Segment.view))]

end Turnpike
