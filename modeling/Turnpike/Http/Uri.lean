/-
  Request targets.

  A target is a path with a query, a full URI with scheme and authority, a lone authority, or an
  asterisk.  Which characters each part may hold is laid down byte by byte; a fragment is dropped.
  Percent signs are not decoded.
-/
import Turnpike.Text.Ascii
import Turnpike.Text.Utf8

namespace Turnpike.Http

open Turnpike.Text

/-- A request target.  The path may be empty behind an authority. -/
structure Uri where
  scheme : Option String := none
  authority : Option String := none
  path : String := ""
  query : Option String := none
  deriving DecidableEq, Repr, Inhabited

/-! ## Characters -/

/-- A character of a scheme. -/
def isSchemeChar (c : Char) : Bool := c.isAlphanum || c == '+' || c == '-' || c == '.' || c == '~'

/-- A character that may stand in an authority without a percent sign. -/
def isAuthorityChar (c : Char) : Bool :=
  c.isAlphanum || "!$&'()*+,-.:;=@[]_~".toList.contains c

/-- A character that ends an authority. -/
def endsAuthority (c : Char) : Bool := c == '/' || c == '?' || c == '#'

/-- A character of a path.  Quotes and braces are let through, as are all beyond ASCII. -/
def isPathChar (c : Char) : Bool :=
  c == '!' || ('$' ≤ c && c ≤ ';') || c == '=' || ('@' ≤ c && c ≤ '_') || c.isLower ||
    c == '|' || c == '~' || 0x7f ≤ c.toNat || c == '\x22' || c == '\x7b' || c == '\x7d'

/-- A character of a query. -/
def isQueryChar (c : Char) : Bool :=
  c == '!' || ('$' ≤ c && c ≤ ';') || c == '=' || '?' ≤ c

/-! ## Authorities -/

/-- What has been seen of an authority. -/
structure AuthorityScan where
  colons : Nat := 0
  opened : Bool := false
  closed : Bool := false
  percent : Bool := false
  atSign : Bool := false

/-- One more character of an authority.  A user part and a bracketed address make what stood before
    them forgotten, colons and percent signs included. -/
def AuthorityScan.step (s : AuthorityScan) (c : Char) : Option AuthorityScan :=
  let s := { s with atSign := false }
  if c = ':' then (if 8 ≤ s.colons then none else some { s with colons := s.colons + 1 })
  else if c = '[' then (if s.percent || s.opened then none else some { s with opened := true })
  else if c = ']' then
    if !s.opened || s.closed then none
    else some { s with closed := true, colons := 0, percent := false }
  else if c = '@' then some { s with atSign := true, colons := 0, percent := false }
  else if c = '%' then some { s with percent := true }
  else if isAuthorityChar c then some s
  else none

/-- What a whole text is as an authority. -/
def AuthorityScan.run (s : AuthorityScan) : List Char → Option AuthorityScan
  | [] => some s
  | c :: r => (s.step c).bind (·.run r)

/-- May the text be an authority?  It may be empty here. -/
def isAuthority (s : List Char) : Bool :=
  match ({} : AuthorityScan).run s with
  | some a => a.opened == a.closed && a.colons ≤ 1 && !a.atSign && !a.percent
  | none => false

/-! ## Paths and queries -/

/-- Path and query of a text; the path ends at a question mark, both end at a number sign. -/
def pathAndQuery? (s : List Char) : Option (String × Option String) :=
  let s := s.takeWhile (· != '#')
  match splitFirst? '?' s with
  | none => if s.all isPathChar then some (String.ofList s, none) else none
  | some (path, query) =>
    if path.all isPathChar && query.all isQueryChar then
      some (String.ofList path, some (String.ofList query))
    else none

/-! ## Targets -/

/-- The scheme at the head of a text and what stands behind its slashes. -/
inductive SchemeScan where
  | none
  | scheme (name : List Char) (rest : List Char)
  | tooLong

/-- Looks for a scheme. -/
def scanScheme (s : List Char) : SchemeScan :=
  let name := s.takeWhile isSchemeChar
  match s.dropWhile isSchemeChar with
  | ':' :: '/' :: '/' :: rest => if 64 < name.length then .tooLong else .scheme name rest
  | _ => .none

/-- The longest target, in bytes. -/
def targetLimit : Nat := 65534

/-- The target that a text states. -/
def Uri.parse? (s : String) : Option Uri :=
  if targetLimit < s.utf8ByteSize then none
  else
    match s.toList with
    | [] => none
    | ['*'] => some { path := "*" }
    | '/' :: r => (pathAndQuery? ('/' :: r)).map fun (p, q) => { path := p, query := q }
    | cs =>
      match scanScheme cs with
      | .tooLong => none
      | .none =>
        if isAuthority cs then some { authority := some (String.ofList cs) } else none
      | .scheme name rest =>
        let authority := rest.takeWhile (!endsAuthority ·)
        if authority ≠ [] ∧ isAuthority authority then
          (pathAndQuery? (rest.dropWhile (!endsAuthority ·))).map fun (p, q) =>
            let scheme := String.ofList name
            let lower := lowerAscii scheme
            { scheme := some (if lower = "http" || lower = "https" then lower else scheme)
              authority := some (String.ofList authority)
              path := p
              query := q }
        else none

namespace Uri

/-- The query with its question mark, or nothing. -/
def queryText (u : Uri) : String :=
  match u.query with
  | some q => "?" ++ q
  | none => ""

/-- Is this a lone authority, which has neither path nor query? -/
def isAuthorityOnly (u : Uri) : Bool := u.scheme.isNone && u.authority.isSome

/-- Path and query as they were written, or a slash when there is nothing. -/
def target (u : Uri) : String :=
  let s := u.path ++ u.queryText
  if s = "" then "/" else s

/-- Path and query; none for a lone authority. -/
def target? (u : Uri) : Option String := if u.isAuthorityOnly then none else some u.target

/-- The path; a slash when there is none behind an authority. -/
def routePath (u : Uri) : String :=
  if u.isAuthorityOnly then "" else if u.path = "" then "/" else u.path

/-- The target without scheme and authority. -/
def relative (u : Uri) : Uri :=
  if u.isAuthorityOnly then { path := "/" } else { path := u.path, query := u.query }

/-- The whole target as text. -/
def text (u : Uri) : String :=
  (u.scheme.map (· ++ "://")).getD "" ++ u.authority.getD "" ++ u.routePath ++ u.queryText

end Uri

end Turnpike.Http
