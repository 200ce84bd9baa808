/-
  The command line — from arguments and files to a proxy in service.

  The arguments name a file of settings and override two of them.  With the settings come the first
  values of the store, and with those the proxy that a supervisor puts into service at its start.
-/
import Turnpike.Address.Local
import Turnpike.Settings.Load
import Turnpike.View.Proxies
import Turnpike.View.Settings

namespace Turnpike

/-- What the arguments say. -/
structure Command where
  /-- The file of settings; without one the defaults hold. -/
  settingsFile : Option String := none
  logLevel : Option String := none
  /-- Are log entries to be documents? -/
  jsonLog : Bool := false
  deriving DecidableEq, Repr

namespace Command

/-- How the program is called. -/
def usage : String := "usage: turnpike [-c FILE] [--log-level LEVEL] [--json]"

/-- Takes in arguments, of which later ones count for more. -/
def parse (c : Command) : List String → Except String Command
  | [] => .ok c
  | "-c" :: file :: r | "--config" :: file :: r => parse { c with settingsFile := some file } r
  | "--log-level" :: level :: r => parse { c with logLevel := some level } r
  | "--json" :: r => parse { c with jsonLog := true } r
  | _ => .error usage

/-- The settings with what the arguments override. -/
def override (c : Command) (s : Settings) : Settings :=
  { s with
    observation :=
      { s.observation with
        logLevel := c.logLevel.getD s.observation.logLevel
        logFormat := if c.jsonLog then "json" else s.observation.logFormat } }

/-- A store with first values under the settings' prefix. -/
def storeOf (s : Settings) (seed : List (String × Json)) : Store :=
  Store.empty.seed s.storage.stem (seed.map fun (k, v) => (k, v.text))

/-- A supervisor, started over a store. -/
def started (s : Settings) (store : Store) : Supervisor × Result Unit :=
  let supervisor : Supervisor :=
    { layout := .ofPrefix s.storage.stem
      options := s.supervisorOptions
      blueprint := s.proxyOptions }
  let ground : Proxy.Ground :=
    { registry := .standard, canBind := fun place => (Address.bindable? place).isSome }
  supervisor.start 0 { ground := ground } store

/-- The settings and the proxy that is in service with them. -/
def report (s : Settings) (seed : List (String × Json)) : Result Json :=
  match started s (storeOf s seed) with
  | (_, .error e) => .error e
  | (supervisor, .ok ()) =>
    .ok (Json.object [("settings", s.json), ("supervisor", supervisor.view),
      ("proxy", .ofOption (·.view) supervisor.current)])

end Command

end Turnpike
