/-
  Settings of the whole program.

  Every setting has a default, so an empty document states settings too.  They are read from a tree
  section by section, and it depends on the language of the document whether an array that stands
  for a section may have surplus items.
-/
import Turnpike.Json.Shape
import Turnpike.Supervisor.Basic

namespace Turnpike

open Turnpike.Json

/-- The listener that every proxy has from the start. -/
structure Settings.Listener where
  enabled : Bool := true
  id : String := "default"
  address : String := "0.0.0.0:8080"
  deriving DecidableEq, Repr

/-- The store: what all its keys start with, and a file of first values. -/
structure Settings.Storage where
  stem : String := "/hotwire"
  seedFile : Option String := none
  deriving DecidableEq, Repr

/-- When a proxy is built anew. -/
structure Settings.Restarts where
  retrySeconds : Nat := 5
  maxAttempts : Nat := 10
  /-- The number of changes that may wait to be applied. -/
  buffer : Nat := 2000
  deriving DecidableEq, Repr

/-- Time limits; without a limit on requests at zero. -/
structure Settings.Limits where
  requestSeconds : Nat := 0
  drainSeconds : Nat := 30
  deriving DecidableEq, Repr

/-- What is told of the program at work. -/
structure Settings.Observation where
  logLevel : String := "info"
  logFormat : String := "pretty"
  metricsEnabled : Bool := false
  metricsAddress : String := "0.0.0.0:9090"
  deriving DecidableEq, Repr

/-- The settings of the whole program. -/
structure Settings where
  listener : Settings.Listener := {}
  storage : Settings.Storage := {}
  restarts : Settings.Restarts := {}
  limits : Settings.Limits := {}
  observation : Settings.Observation := {}
  deriving DecidableEq, Repr

namespace Settings

/-! ## Reading -/

/-- The listener of a tree. -/
def Listener.read? (surplus : Bool) : Reader Listener := fun t => do
  let [enabled, id, address] ← t.fields? ["enabled", "id", "bind_address"] surplus | none
  let d : Listener := {}
  some {
    enabled := ← withDefault flag? d.enabled enabled
    id := ← withDefault text? d.id id
    address := ← withDefault text? d.address address }

/-- The store of a tree. -/
def Storage.read? (surplus : Bool) : Reader Storage := fun t => do
  let [stem, seedFile] ← t.fields? ["prefix", "seed_file"] surplus | none
  let d : Storage := {}
  some {
    stem := ← withDefault text? d.stem stem
    seedFile := ← withDefault (nullable? text?) d.seedFile seedFile }

/-- The restarts of a tree. -/
def Restarts.read? (surplus : Bool) : Reader Restarts := fun t => do
  let [retry, attempts, buffer] ←
    t.fields? ["retry_period_secs", "max_restart_attempts", "changes_buffer"] surplus | none
  let d : Restarts := {}
  some {
    retrySeconds := ← withDefault word? d.retrySeconds retry
    maxAttempts := ← withDefault (natBelow? 0x100000000) d.maxAttempts attempts
    buffer := ← withDefault word? d.buffer buffer }

/-- The time limits of a tree. -/
def Limits.read? (surplus : Bool) : Reader Limits := fun t => do
  let [request, drain] ← t.fields? ["request_secs", "drain_secs"] surplus | none
  let d : Limits := {}
  some {
    requestSeconds := ← withDefault word? d.requestSeconds request
    drainSeconds := ← withDefault word? d.drainSeconds drain }

/-- What is told of the program, of a tree. -/
def Observation.read? (surplus : Bool) : Reader Observation := fun t => do
  let [level, format, enabled, address] ←
    t.fields? ["log_level", "log_format", "metrics_enabled", "metrics_address"] surplus | none
  let d : Observation := {}
  some {
    logLevel := ← withDefault text? d.logLevel level
    logFormat := ← withDefault text? d.logFormat format
    metricsEnabled := ← withDefault flag? d.metricsEnabled enabled
    metricsAddress := ← withDefault text? d.metricsAddress address }

/-- The settings of a tree. -/
def read? (surplus : Bool) : Reader Settings := fun t => do
  let [listener, storage, restarts, limits, observation] ←
    t.fields? ["listener", "store", "supervisor", "timeouts", "observability"] surplus | none
  some {
    listener := ← withDefault (Listener.read? surplus) {} listener
    storage := ← withDefault (Storage.read? surplus) {} storage
    restarts := ← withDefault (Restarts.read? surplus) {} restarts
    limits := ← withDefault (Limits.read? surplus) {} limits
    observation := ← withDefault (Observation.read? surplus) {} observation }

/-! ## What they are for -/

/-- Seconds in nanoseconds. -/
def nanosOf (seconds : Nat) : Nat := seconds * 1000000000

/-- The listener, if it is enabled. -/
def Listener.entity? (l : Listener) : Option Entity.Listener :=
  if l.enabled then some { id := l.id, address := { address := l.address } } else none

/-- The options of a proxy. -/
def proxyOptions (s : Settings) : Proxy.Options where
  defaultListener := s.listener.entity?
  drainNanos := nanosOf s.limits.drainSeconds
  requestLimit :=
    if 0 < s.limits.requestSeconds then some (nanosOf s.limits.requestSeconds) else none

/-- The options of a supervisor. -/
def supervisorOptions (s : Settings) : Supervisor.Options where
  retryNanos := nanosOf s.restarts.retrySeconds
  maxAttempts := s.restarts.maxAttempts
  buffer := s.restarts.buffer

end Settings

end Turnpike
