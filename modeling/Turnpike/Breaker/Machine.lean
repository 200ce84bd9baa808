/-
  Circuit breakers.

  A breaker in standby lets every request pass and records how it ends.  When its condition holds of
  what it has recorded, it trips: every request gets the fallback, and recording starts over.  After
  a while it recovers: a growing share of the requests passes, and after another while all of them,
  unless the condition holds again.

  The condition is looked at when a request ends, not more often than once in a given time.  Time is
  counted in nanoseconds.
-/
import Turnpike.Breaker.Compile
import Turnpike.Http.Request
import Turnpike.Http.Response
import Turnpike.Json.Shape
import Turnpike.Url.Parser

namespace Turnpike

namespace Breaker

open Turnpike.Json Turnpike.Http

/-! ## Settings -/

/-- What requests get while the breaker is tripped: a redirection, if there is a location, and
    otherwise a fixed response. -/
structure FallbackSettings where
  status : Nat := 503
  contentType : String := "text/plain"
  body : String := "service unavailable"
  redirect : Option String := none
  deriving DecidableEq, Repr, Inhabited

/-- The settings of a breaker, with times in milliseconds. -/
structure Settings where
  condition : String
  fallback : FallbackSettings := {}
  fallbackMillis : Nat := 10000
  recoveryMillis : Nat := 10000
  checkMillis : Nat := 100
  deriving DecidableEq, Repr, Inhabited

/-- The fallback settings of a document. -/
def FallbackSettings.read? : Reader FallbackSettings := fun t => do
  let [status, contentType, body, redirect] ←
    t.fields? ["status", "content_type", "body", "redirect"] false | none
  some {
    status := ← withDefault (natBelow? 65536) 503 status
    contentType := ← withDefault text? "text/plain" contentType
    body := ← withDefault text? "service unavailable" body
    redirect := ← withDefault (nullable? text?) none redirect }

/-- Fallback settings as a document. -/
def FallbackSettings.json (f : FallbackSettings) : Json :=
  .obj [("body", .str f.body), ("content_type", .str f.contentType),
    ("redirect", (f.redirect.map Json.str).getD .null), ("status", .ofNat f.status)]

/-- The breaker settings of a document. -/
def Settings.read? : Reader Settings := fun t => do
  let [condition, fallback, fallbackFor, recoverFor, checkEvery] ← t.fields?
    ["condition", "fallback", "fallback_duration_ms", "recovery_duration_ms", "check_period_ms"]
    false | none
  some {
    condition := ← required text? condition
    fallback := ← withDefault FallbackSettings.read? {} fallback
    fallbackMillis := ← withDefault word? 10000 fallbackFor
    recoveryMillis := ← withDefault word? 10000 recoverFor
    checkMillis := ← withDefault word? 100 checkEvery }

/-- Breaker settings as a document. -/
def Settings.json (s : Settings) : Json :=
  .obj [("check_period_ms", .ofNat s.checkMillis), ("condition", .str s.condition),
    ("fallback", s.fallback.json), ("fallback_duration_ms", .ofNat s.fallbackMillis),
    ("recovery_duration_ms", .ofNat s.recoveryMillis)]

/-- The response of tripped requests.  A redirection needs a URL, a fixed response a status of three
    digits and a type that a header can hold. -/
def FallbackSettings.response (f : FallbackSettings) : Result Response :=
  match f.redirect with
  | some location =>
    match Url.parse location with
    | .ok _ => .ok (.found location)
    | .error e => .error (.invalid s!"fallback redirect '{location}': {e.message}")
  | none =>
    if f.status < 100 ∨ 999 < f.status then
      .error (.invalid s!"fallback status {f.status} is not valid")
    else if !isValue f.contentType then
      .error (.invalid s!"fallback content type '{f.contentType}' is not valid")
    else
      .ok { status := f.status
            headers := .ofList [("content-type", f.contentType)]
            body := f.body }

/-! ## States -/

/-- The phases of a breaker. -/
inductive Phase where
  | standby
  | tripped
  | recovering
  deriving DecidableEq, Repr, Inhabited

/-- The name of a phase. -/
def Phase.text : Phase → String
  | standby => "standby"
  | tripped => "tripped"
  | recovering => "recovering"

end Breaker

/-- A breaker. -/
structure Breaker where
  settings : Breaker.Settings
  condition : Breaker.Condition
  fallback : Http.Response
  phase : Breaker.Phase
  /-- The end of the current phase, of those that end by themselves. -/
  deadline : Nat
  /-- The time from which on the condition is looked at again. -/
  nextCheck : Nat
  /-- What has been recorded since the last trip. -/
  stats : Stats
  /-- The requests that passed since recovery began. -/
  allowed : Nat
  /-- The requests turned away since recovery began. -/
  denied : Nat
  deriving DecidableEq

namespace Breaker

/-- A time in milliseconds as one in nanoseconds. -/
def nanos (millis : Nat) : Nat := millis * 1000000

/-- The breaker of these settings, in standby. -/
def make (s : Settings) (now : Nat) : Result Breaker := do
  let condition ← Condition.parse s.condition
  let fallback ← s.fallback.response
  .ok {
    settings := s, condition := condition, fallback := fallback
    phase := .standby, deadline := now, nextCheck := now, stats := {}, allowed := 0, denied := 0 }

/-- A span of time in seconds. -/
def seconds (span : Nat) : Float :=
  Float.ofNat (span / 1000000000) + Float.ofNat (span % 1000000000) / 1000000000.0

/-- The share of requests that passes at `now` while the breaker recovers: from none at the start to
    all at the end. -/
def share (b : Breaker) (now : Nat) : Float :=
  let whole := nanos b.settings.recoveryMillis
  if whole = 0 then 1.0
  else
    let started := if whole ≤ b.deadline then b.deadline - whole else b.deadline
    let r := seconds (now - started) / seconds whole
    if r < 1.0 then r else 1.0

/-- May one more request pass while the breaker recovers? -/
def hasRoom (b : Breaker) (now : Nat) : Bool :=
  Float.ofNat b.allowed < b.share now * Float.ofNat (b.allowed + b.denied + 1)

/-- Asks the breaker at `now` to let a request pass.  The answer tells whether it does; if not, the
    request gets the fallback. -/
def screen (b : Breaker) (now : Nat) : Breaker × Bool :=
  match b.phase with
  | .standby => (b, true)
  | .tripped =>
    if b.deadline ≤ now then
      ({ b with
          phase := .recovering, deadline := now + nanos b.settings.recoveryMillis
          allowed := 0, denied := 0 }, false)
    else (b, false)
  | .recovering =>
    if b.deadline ≤ now then ({ b with phase := .standby, deadline := now }, true)
    else if b.hasRoom now then ({ b with allowed := b.allowed + 1 }, true)
    else ({ b with denied := b.denied + 1 }, false)

/-- Tells the breaker at `now` how a request ended, and how long it took. -/
def settle (b : Breaker) (now : Nat) (outcome : Outcome) (latency : Nat) : Breaker :=
  let b := { b with stats := b.stats.record outcome latency }
  if now < b.nextCheck then b
  else
    let b := { b with nextCheck := now + nanos b.settings.checkMillis }
    if b.phase = .tripped ∨ b.condition.holds b.stats = false then b
    else
      { b with
        phase := .tripped, deadline := now + nanos b.settings.fallbackMillis, stats := {} }

end Breaker

end Turnpike
