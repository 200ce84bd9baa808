/-
  The plaza — where gates stand.

  A gate once built keeps its state for as long as somebody refers to it, be it a chain or a request
  that found it in one.  So gates are numbered, and the plaza holds the state of each, together with
  what they share: the time, the counters of requests turned away, and the journal of the probes.

  Gates are built by kind.  A registry says which kinds there are.
-/
import Turnpike.Breaker.Machine
import Turnpike.Gate.Limits
import Turnpike.Gate.Pipeline
import Turnpike.Gate.Probe
import Turnpike.Gate.Retarget
import Turnpike.Metrics

namespace Turnpike.Gate

open Turnpike.Json Turnpike.Http

/-- A gate of any kind, with its state. -/
inductive Instance where
  | rate (g : RateLimit)
  | flight (g : FlightLimit)
  | retarget (g : Retarget)
  | breaker (g : Breaker)
  | probe (g : Probe)

/-- The number of a gate. -/
abbrev Serial := Nat

/-- What all gates share. -/
structure Ambient where
  /-- The time, in nanoseconds. -/
  now : Nat := 0
  tally : Tally := .empty
  /-- What the probes have noted. -/
  journal : List String := []
  deriving Inhabited

/-- Counts one event. -/
def Ambient.count (a : Ambient) (s : Series) : Ambient := { a with tally := a.tally.count s }

/-- The time some nanoseconds later. -/
def Ambient.advance (a : Ambient) (span : Nat) : Ambient := { a with now := a.now + span }

/-- The gates by number, with what they share. -/
structure Plaza extends Ambient where
  gates : Array Instance := #[]

namespace Plaza

/-- Puts up a gate. -/
def build (p : Plaza) (g : Instance) : Plaza × Serial :=
  ({ p with gates := p.gates.push g }, p.gates.size)

/-- The gate of a number. -/
def gate? (p : Plaza) (n : Serial) : Option Instance := p.gates[n]?

/-- The gate of a number in another state. -/
def store (p : Plaza) (n : Serial) (g : Instance) : Plaza :=
  { p with gates := p.gates.setIfInBounds n g }

/-- Counts one event. -/
def count (p : Plaza) (s : Series) : Plaza := { p with tally := p.tally.count s }

/-- Counts a request turned away, when there is a response that does so. -/
def countAnswer (p : Plaza) (reason : String) (v : Verdict) : Plaza :=
  match v with
  | .ok (some _) => p.count (.rejected reason)
  | _ => p

/-- Notes something in the journal. -/
def note (p : Plaza) (s : String) : Plaza := { p with journal := p.journal ++ [s] }

/-- The time some nanoseconds later. -/
def advance (p : Plaza) (span : Nat) : Plaza := { p with now := p.now + span }

/-- Asks a gate about a request. -/
def screen (n : Serial) (r : Request) (p : Plaza) : Plaza × Verdict :=
  match p.gate? n with
  | none => (p, .ok none)
  | some (.rate g) =>
    let (g, v) := g.screen p.now r
    ((p.store n (.rate g)).countAnswer "rate_limit" v, v)
  | some (.flight g) =>
    let (g, v) := g.screen r
    ((p.store n (.flight g)).countAnswer "conn_limit" v, v)
  | some (.retarget g) => (p, .ok (g.screen r))
  | some (.breaker g) =>
    let (g, passes) := g.screen p.now
    let v : Verdict := .ok (if passes then none else some g.fallback)
    ((p.store n (.breaker g)).countAnswer "circuit_breaker" v, v)
  | some (.probe g) => (p.note (g.requestNote r), g.screen)

/-- Lets a gate replace a target. -/
def retarget (n : Serial) (r : Request) (u : Uri) (p : Plaza) : Plaza × Result Uri :=
  match p.gate? n with
  | some (.retarget g) => (p, g.retarget r u)
  | some (.probe g) => (p, g.retarget u)
  | _ => (p, .ok u)

/-- Tells a gate how a request has ended. -/
def settle (n : Serial) (r : Request) (o : Option Outcome) (p : Plaza) : Plaza :=
  match p.gate? n with
  | some (.flight g) => p.store n (.flight (g.settle r))
  | some (.breaker g) =>
    match o with
    | some o => p.store n (.breaker (g.settle p.now o r.age))
    | none => p
  | some (.probe g) => p.note (g.outcomeNote o)
  | _ => p

/-- What the gates of a plaza do. -/
def hooks : Hooks Serial Plaza := ⟨screen, retarget, settle⟩

end Plaza

/-! ## Kinds -/

/-- The kinds of gates. -/
inductive Kind where
  | rate
  | flight
  | retarget
  | breaker
  | probe
  deriving DecidableEq, Repr

/-- The name of a kind. -/
def Kind.name : Kind → String
  | rate => "ratelimit"
  | flight => "connlimit"
  | retarget => "rewrite"
  | breaker => "cbreaker"
  | probe => "recorder"

/-- Reads settings of a kind. -/
def settingsOf {α : Type} (k : Kind) (read? : Reader α) (settings : Json) : Result α :=
  match read? settings.tree with
  | some s => .ok s
  | none => .error (.invalid (k.name ++ " settings"))

/-- A gate of that kind with these settings. -/
def Kind.make (k : Kind) (settings : Json) (now : Nat) : Result Instance :=
  match k with
  | rate => do
    let s ← settingsOf k RateSettings.read? settings
    .ok (.rate (← RateLimit.make s))
  | flight => do
    let s ← settingsOf k FlightSettings.read? settings
    .ok (.flight (← FlightLimit.make s))
  | retarget => do
    let s ← settingsOf k RetargetSettings.read? settings
    .ok (.retarget (← Retarget.make s))
  | breaker => do
    let s ← settingsOf k Breaker.Settings.read? settings
    .ok (.breaker (← Breaker.make s now))
  | probe => do
    let s ← settingsOf k Probe.read? settings
    .ok (.probe s)

/-- The kinds that can be built. -/
structure Registry where
  kinds : List Kind
  deriving DecidableEq, Repr

namespace Registry

/-- No kind. -/
def empty : Registry := ⟨[]⟩

/-- The kinds for use. -/
def standard : Registry := ⟨[.rate, .flight, .retarget, .breaker]⟩

/-- The kinds for use, and probes. -/
def withProbes : Registry := ⟨.probe :: standard.kinds⟩

/-- The kind of that name. -/
def find? (r : Registry) (name : String) : Option Kind := r.kinds.find? (·.name == name)

/-- The names in order. -/
def names (r : Registry) : List String := (r.kinds.map (·.name)).mergeSort fun a b => a ≤ b

/-- The registry with a kind, whether or not it was there. -/
def replace (r : Registry) (k : Kind) : Registry := if k ∈ r.kinds then r else ⟨k :: r.kinds⟩

/-- The registry with one more kind. -/
def register (r : Registry) (k : Kind) : Result Registry :=
  if k ∈ r.kinds then .error (.alreadyExists ("middleware type " ++ k.name))
  else .ok (r.replace k)

/-- A gate of the kind of that name with these settings. -/
def build (r : Registry) (name : String) (settings : Json) (now : Nat) : Result Instance :=
  match r.find? name with
  | some k => k.make settings now
  | none => .error (.notFound ("middleware type " ++ name))

end Registry

end Turnpike.Gate
