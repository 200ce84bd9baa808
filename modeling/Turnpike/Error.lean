/-
  What can go wrong in the proxy, with the wording and the status code of each.
-/

namespace Turnpike

/-- An error, by its cause. -/
inductive Error where
  /-- A text in one of the small languages (routes, conditions, patterns) is not well formed. -/
  | syntaxError (input reason : String)
  /-- A text is no pattern. -/
  | badPattern (pattern : String)
  | notFound (what : String)
  | alreadyExists (what : String)
  | invalid (what : String)
  | conflict (what : String)
  /-- The feed of changes broke off. -/
  | feed (what : String)
  | tokensExceedBurst (requested capacity : Nat)
  /-- A request could not be mapped to a limiter token. -/
  | mapping (what : String)
  /-- A stored document does not have the shape that its key asks for. -/
  | decode (key : String)
  | io
  | fatal (what : String)
  deriving DecidableEq, Repr

namespace Error

/-- The wording of an error.  An input or output error has none of its own. -/
def message : Error → String
  | syntaxError input reason => s!"syntax error in '{input}': {reason}"
  | badPattern pattern => s!"syntax error in '{pattern}'"
  | notFound what => s!"{what} not found"
  | alreadyExists what => s!"{what} already exists"
  | invalid what => s!"invalid format: {what}"
  | conflict what => s!"conflict: {what}"
  | feed what => s!"change feed error: {what}"
  | tokensExceedBurst requested capacity =>
    s!"requested {requested} tokens, bucket holds at most {capacity}"
  | mapping what => s!"failed to map request: {what}"
  | decode key => s!"failed to decode '{key}'"
  | io => ""
  | fatal what => s!"fatal: {what}"

/-- The status code with which a request that meets the error is answered. -/
def status : Error → Nat
  | syntaxError .. | badPattern _ | invalid _ | mapping _ | decode _ => 400
  | notFound _ => 404
  | alreadyExists _ | conflict _ => 409
  | tokensExceedBurst .. => 429
  | feed _ => 503
  | io | fatal _ => 500

end Error

/-- The result of an operation that may fail. -/
abbrev Result := Except Error

end Turnpike
