/-
  Gates that send requests elsewhere.

  A pattern is matched against the URL of a request, or against its path and query when the host is
  not known.  Where it matches, the replacement makes a new URL: the request is redirected there, or
  the server is asked for its path and query, and the host of the new URL does not count then.
-/
import Turnpike.Http.Request
import Turnpike.Http.Response
import Turnpike.Json.Shape
import Turnpike.Regex.Replace

namespace Turnpike.Gate

open Turnpike.Json Turnpike.Http

/-- A pattern, what replaces its matches, and whether the client is told to go there itself. -/
structure RetargetSettings where
  pattern : String
  replacement : String
  redirect : Bool := false
  deriving DecidableEq, Repr, Inhabited

/-- The settings of a document. -/
def RetargetSettings.read? : Reader RetargetSettings := fun t => do
  let [pattern, replacement, redirect] ←
    t.fields? ["regexp", "replacement", "redirect"] false | none
  some {
    pattern := ← required text? pattern
    replacement := ← required text? replacement
    redirect := ← withDefault flag? false redirect }

/-- The settings as a document. -/
def RetargetSettings.json (s : RetargetSettings) : Json :=
  .obj [("redirect", .bool s.redirect), ("regexp", .str s.pattern),
    ("replacement", .str s.replacement)]

/-- The settings with their pattern compiled. -/
structure Retarget where
  settings : RetargetSettings
  program : Regex.Program

/-- Compiles the pattern of the settings. -/
def Retarget.make (s : RetargetSettings) : Result Retarget :=
  match Regex.compile s.pattern with
  | some p => .ok ⟨s, p⟩
  | none => .error (.badPattern s.pattern)

/-- The URL that the pattern is matched against. -/
def subject (r : Request) (u : Uri) : String :=
  match r.host? with
  | some host => "http://" ++ host ++ (u.target?).getD "/"
  | none => (u.target?).getD "/"

/-- The URL that the replacement makes, where the pattern matches. -/
def Retarget.url? (g : Retarget) (r : Request) (u : Uri) : Option String :=
  Regex.replaceAll? g.program (subject r u) g.settings.replacement

/-- Redirects a request, if that is what the gate does and the pattern matches. -/
def Retarget.screen (g : Retarget) (r : Request) : Option Response :=
  if g.settings.redirect then (g.url? r r.uri).map .found else none

/-- Path and query of a new URL. -/
def forwarded (url : String) : Result Uri :=
  match Uri.parse? url with
  | some u => .ok u.relative
  | none => .error (.invalid s!"rewritten url '{url}' is not valid")

/-- The target to ask for in place of `u`. -/
def Retarget.retarget (g : Retarget) (r : Request) (u : Uri) : Result Uri :=
  if g.settings.redirect then .ok u
  else
    match g.url? r u with
    | some s => forwarded s
    | none => .ok u

end Turnpike.Gate
