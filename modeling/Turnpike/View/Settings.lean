/-
  Views of settings — as a document with every section, and the options that come of them.
-/
import Turnpike.Settings.Load

namespace Turnpike.Settings

open Turnpike.Json

/-- The settings, section by section. -/
def json (s : Settings) : Json :=
  object [
    ("listener", object [("enabled", .bool s.listener.enabled), ("id", .str s.listener.id),
      ("bind_address", .str s.listener.address)]),
    ("store", object [("prefix", .str s.storage.stem),
      ("seed_file", ofOption .str s.storage.seedFile)]),
    ("supervisor", object [("retry_period_secs", ofNat s.restarts.retrySeconds),
      ("max_restart_attempts", ofNat s.restarts.maxAttempts),
      ("changes_buffer", ofNat s.restarts.buffer)]),
    ("timeouts", object [("request_secs", ofNat s.limits.requestSeconds),
      ("drain_secs", ofNat s.limits.drainSeconds)]),
    ("observability", object [("log_level", .str s.observation.logLevel),
      ("log_format", .str s.observation.logFormat),
      ("metrics_enabled", .bool s.observation.metricsEnabled),
      ("metrics_address", .str s.observation.metricsAddress)])]

/-- Nanoseconds in whole seconds. -/
def secondsView (nanos : Nat) : Json := ofNat (nanos / 1000000000)

/-- The settings with the options that come of them. -/
def view (s : Settings) : Json :=
  let p := s.proxyOptions
  let v := s.supervisorOptions
  object [("config", s.json),
    ("server_options", object [("default_listener", ofOption (·.json) p.defaultListener),
      ("drain_secs", secondsView p.drainNanos),
      ("request_secs", ofOption secondsView p.requestLimit)]),
    ("supervisor_options", object [("retry_secs", secondsView v.retryNanos),
      ("max", ofNat v.maxAttempts), ("buffer", ofNat v.buffer)])]

/-- A fault: its cause, its wording, and the fields that are wrong. -/
def Fault.view (f : Fault) : Json :=
  let worded (kind : String) := [("error", Json.str kind), ("message", .str f.message)]
  match f with
  | .missing => object (worded "Io")
  | .malformed => object (worded "Parse")
  | .shapeless => object [("error", .str "Decode")]
  | .badSeed => object (worded "Seed")
  | .invalid cs => object (worded "Validation" ++ [("fields", ofTexts (cs.map (·.field)))])

end Turnpike.Settings
