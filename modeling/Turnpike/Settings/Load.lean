/-
  Loading settings — from a document to settings that make sense together.

  A document in TOML or JSON is read first; then the settings are checked one by one, and all that
  is wrong with them is told at once, in the order of the sections.  A seed file holds the first
  values of the store, each under its key.
-/
import Turnpike.Address.Socket
import Turnpike.Json.Reader
import Turnpike.Settings.Basic
import Turnpike.Text.Ascii
import Turnpike.Toml.Reader

namespace Turnpike.Settings

open Turnpike.Text

/-! ## Checks -/

/-- What is wrong with a setting. -/
structure Complaint where
  field : String
  message : String
  deriving DecidableEq, Repr

/-- A complaint as text. -/
def Complaint.text (c : Complaint) : String := c.field ++ ": " ++ c.message

/-- A complaint about a field, unless its value is good. -/
def complainUnless (good : Bool) (field message : String) : List Complaint :=
  if good then [] else [⟨field, message⟩]

/-- Does an address consist of a host and a port? -/
def hasPort (address : String) : Bool :=
  match splitLast? ':' address.toList with
  | some (host, port) => host ≠ [] && (Address.signedPort? port).isSome
  | none => false

/-- The levels of log entries. -/
def logLevels : List String := ["trace", "debug", "info", "warn", "error"]

/-- The formats of log entries. -/
def logFormats : List String := ["pretty", "json"]

/-- What is wrong with the listener, if it is enabled. -/
def Listener.complaints (l : Listener) : List Complaint :=
  if l.enabled then
    complainUnless (l.id ≠ "" && !l.id.toList.contains '/') "listener.id"
      s!"'{l.id}' is not a valid id" ++
    complainUnless (hasPort l.address) "listener.bind_address" s!"'{l.address}' must be host:port"
  else []

/-- What is wrong with the store. -/
def Storage.complaints (s : Storage) : List Complaint :=
  complainUnless (s.stem.toList.head? = some '/' && s.stem.toList.any (· ≠ '/')) "store.prefix"
    s!"'{s.stem}' must start with '/' and name a directory"

/-- What is wrong with the restarts. -/
def Restarts.complaints (r : Restarts) : List Complaint :=
  let positive (n : Nat) (field : String) := complainUnless (0 < n) field "must be greater than 0"
  positive r.retrySeconds "supervisor.retry_period_secs" ++
  positive r.maxAttempts "supervisor.max_restart_attempts" ++
  positive r.buffer "supervisor.changes_buffer"

/-- What is wrong with what is told of the program. -/
def Observation.complaints (o : Observation) : List Complaint :=
  let oneOf (value : String) (known : List String) :=
    s!"'{value}' is not one of " ++ ", ".intercalate known
  complainUnless (logLevels.contains (lowerAscii o.logLevel)) "observability.log_level"
    (oneOf o.logLevel logLevels) ++
  complainUnless (logFormats.contains o.logFormat) "observability.log_format"
    (oneOf o.logFormat logFormats) ++
  complainUnless (!o.metricsEnabled || (Address.Socket.parse? o.metricsAddress).isSome)
    "observability.metrics_address" s!"'{o.metricsAddress}' is not a socket address"

/-- All that is wrong with settings. -/
def complaints (s : Settings) : List Complaint :=
  s.listener.complaints ++ s.storage.complaints ++ s.restarts.complaints ++ s.observation.complaints

/-! ## Documents -/

/-- Why there are no settings. -/
inductive Fault where
  /-- There is no such file. -/
  | missing
  /-- The document is no TOML, or has another shape. -/
  | malformed
  /-- The document has another shape than the settings. -/
  | shapeless
  /-- The file of first values is no JSON object. -/
  | badSeed
  | invalid (complaints : List Complaint)
  deriving DecidableEq, Repr

/-- The wording of a fault, without what was found in the document. -/
def Fault.message : Fault → String
  | .missing => "IO error"
  | .malformed => "Parse error"
  | .shapeless => "Decode error"
  | .badSeed => "Seed file error"
  | .invalid cs => "Validation failed: " ++ ", ".intercalate (cs.map (·.text))

/-- The settings, if nothing is wrong with them. -/
def checked (s : Settings) : Except Fault Settings :=
  if s.complaints = [] then .ok s else .error (.invalid s.complaints)

/-- The settings that a TOML document states. -/
def ofToml (text : String) : Except Fault Settings :=
  match (Toml.parse? text).bind (read? true) with
  | some s => s.checked
  | none => .error .malformed

/-- The settings that a JSON value states. -/
def ofJson (j : Json) : Except Fault Settings :=
  match read? false j.tree with
  | some s => s.checked
  | none => .error .shapeless

/-- The settings of a file, of which there may be none. -/
def ofFile (content : Option String) : Except Fault Settings :=
  match content with
  | some text => ofToml text
  | none => .error .missing

/-- The values of a seed file, by their keys. -/
def seedOfFile (content : Option String) : Except Fault (List (String × Json)) :=
  match content with
  | none => .error .missing
  | some text =>
    match Json.parse? text with
    | some (.obj fields) => .ok fields
    | _ => .error .badSeed

end Turnpike.Settings
