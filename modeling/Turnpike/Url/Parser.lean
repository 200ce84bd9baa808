/-
  URLs — reading and writing.

  Controls and spaces at the two ends are cut off, tabs and line breaks anywhere.  A URL begins with
  its scheme.  The special schemes have an authority and a path of segments whatever number of
  slashes or backslashes stands behind the colon; other schemes have an authority behind two slashes
  only.  Dot segments are resolved, and a port that the scheme implies is left out.
-/
import Turnpike.Url.Host

namespace Turnpike

/-- A URL.  The path is given as it is written. -/
structure Url where
  scheme : String
  username : String := ""
  password : Option String := none
  host : Option Url.Host := none
  port : Option Nat := none
  path : String := ""
  query : Option String := none
  fragment : Option String := none
  deriving DecidableEq, Repr

namespace Url

open Turnpike.Text

/-! ## What is percent-encoded where -/

/-- In a fragment. -/
def inFragment (c : Char) : Bool := isControl c || " \x22<>\x60".toList.contains c

/-- In a path. -/
def inPath (c : Char) : Bool := inFragment c || "#?\x7b\x7d".toList.contains c

/-- In a user name or password. -/
def inUser (c : Char) : Bool := inPath c || "/:;=@[\\]^|".toList.contains c

/-- In a query. -/
def inQuery (special : Bool) (c : Char) : Bool :=
  isControl c || " \x22#<>".toList.contains c || (special && c == '\'')

/-! ## Schemes -/

/-- The port that a special scheme implies; `none` for other schemes. -/
def impliedPort? : String → Option Nat
  | "http" | "ws" => some 80
  | "https" | "wss" => some 443
  | "ftp" => some 21
  | _ => none

/-- Does the scheme have an authority always? -/
def isSpecial (scheme : String) : Bool := (impliedPort? scheme).isSome

/-- The text without controls and spaces at its ends, and without tabs and line breaks. -/
def cleaned (s : List Char) : List Char :=
  let s := s.dropWhile (·.toNat ≤ 0x20)
  let s := (s.reverse.dropWhile (·.toNat ≤ 0x20)).reverse
  s.filter fun c => c != '\t' && c != '\n' && c != '\r'

/-- The scheme at the head of a text, in small letters, and what stands behind its colon. -/
def splitScheme? (s : List Char) : Option (String × List Char) :=
  match s with
  | [] => none
  | c :: _ =>
    if !c.isAlpha then none
    else
      let part := fun (c : Char) => c.isAlphanum || c == '+' || c == '-' || c == '.'
      match s.dropWhile part with
      | ':' :: r => some (String.ofList ((s.takeWhile part).map Char.toLower), r)
      | _ => none

/-! ## Authorities -/

/-- The end of an authority; a backslash ends only that of a special URL. -/
def endsHost (special : Bool) (c : Char) : Bool :=
  c == '/' || c == '?' || c == '#' || (special && c == '\\')

/-- The user name and the password before the last at sign. -/
def userParts (user : List Char) : String × Option String :=
  let encoded := fun s => String.ofList (encodeText inUser s)
  match splitFirst? ':' user with
  | none => (encoded user, none)
  | some (name, []) => (encoded name, none)
  | some (name, password) => (encoded name, some (encoded password))

/-- The host part of an authority and what stands from its colon on.  Colons in brackets do not
    count. -/
def splitPort (inside : Bool) : List Char → List Char × List Char
  | [] => ([], [])
  | c :: r =>
    if c = ':' && !inside then ([], c :: r)
    else
      let (host, rest) := splitPort (c == '[' || (inside && c != ']')) r
      (c :: host, rest)

/-- The port behind the host, unless the scheme implies it. -/
def readPort (scheme : String) (s : List Char) : Except Fault (Option Nat) :=
  match s with
  | ':' :: ds =>
    if !ds.all Char.isDigit then .error .port
    else if 65535 < decimal ds then .error .port
    else if ds = [] || impliedPort? scheme == some (decimal ds) then .ok none
    else .ok (some (decimal ds))
  | _ => .ok none

/-- The host of an authority. -/
def readHost (special : Bool) (host port : List Char) : Except Fault Host :=
  if special then
    if host = [] then .error .emptyHost else specialHost host
  else if host = [] && port != [] then .error .emptyHost
  else opaqueHost host

/-- A URL with the authority that the text states. -/
def withAuthority (u : Url) (text : List Char) : Except Fault Url := do
  let special := isSpecial u.scheme
  let (user, rest) := match splitLast? '@' text with
    | some (user, rest) => (some user, rest)
    | none => (none, text)
  let (name, password) := userParts (user.getD [])
  if user.isSome && rest = [] then .error .emptyHost
  else
    let (host, port) := splitPort false rest
    let h ← readHost special host port
    if (name != "" || password.isSome) && host = [] then .error .emptyHost
    else
      let p ← readPort u.scheme port
      .ok { u with username := name, password := password, host := some h, port := p }

/-! ## Paths -/

/-- The spellings of a segment that stays in place. -/
def isSingleDot (s : List Char) : Bool :=
  [".", "%2e"].any fun d => s.map Char.toLower == d.toList

/-- The spellings of a segment that goes up. -/
def isDoubleDot (s : List Char) : Bool :=
  ["..", ".%2e", "%2e.", "%2e%2e"].any fun d => s.map Char.toLower == d.toList

/-- The segments, with dots resolved, behind those already in place (in reverse). -/
def resolve (done : List (List Char)) : List (List Char) → List (List Char)
  | [] => done.reverse
  | [last] =>
    if isDoubleDot last then ([] :: done.tail).reverse
    else if isSingleDot last then ([] :: done).reverse
    else (last :: done).reverse
  | s :: r =>
    if isDoubleDot s then resolve done.tail r
    else if isSingleDot s then resolve done r
    else resolve (s :: done) r

/-- The path that a text states, from its first slash on or behind an implied one. -/
def pathText (special : Bool) (s : List Char) : List Char :=
  let s := if special then s.map fun c => if c = '\\' then '/' else c else s
  let s := match s with
    | '/' :: r => r
    | _ => s
  (resolve [] ((splitAll '/' s).map (encodeText inPath))).flatMap ('/' :: ·)

/-- A URL with the path, query and fragment that the text states. -/
def withTail (u : Url) (rooted : Bool) (s : List Char) : Url :=
  let special := isSpecial u.scheme || u.scheme == "file"
  let (s, fragment) := match splitFirst? '#' s with
    | some (s, f) => (s, some (String.ofList (encodeText inFragment f)))
    | none => (s, none)
  let (path, query) := match splitFirst? '?' s with
    | some (p, q) => (p, some (String.ofList (encodeText (inQuery special) q)))
    | none => (s, none)
  let path :=
    if !rooted then encodeText isControl path
    else if !special && path = [] then []
    else pathText special path
  { u with path := String.ofList path, query := query, fragment := fragment }

/-! ## Whole URLs -/

/-- Reads authority and tail behind the slashes. -/
def readRest (u : Url) (s : List Char) : Except Fault Url := do
  let special := isSpecial u.scheme
  let u ← withAuthority u (s.takeWhile (!endsHost special ·))
  .ok (u.withTail true (s.dropWhile (!endsHost special ·)))

/-- Reads what stands behind the scheme of a local file. -/
def readFile (u : Url) (s : List Char) : Except Fault Url :=
  let slash := fun (c : Char) => c == '/' || c == '\\'
  match s with
  | a :: b :: r =>
    if slash a && slash b then
      match r.takeWhile (!endsHost true ·) with
      | [] => .ok ({ u with host := some (.name "") }.withTail true r)
      | host => do
        let h ← specialHost host
        .ok ({ u with host := some h }.withTail true (r.dropWhile (!endsHost true ·)))
    else .ok ({ u with host := some (.name "") }.withTail true s)
  | _ => .ok ({ u with host := some (.name "") }.withTail true s)

/-- The URL that a text states. -/
def parse (text : String) : Except Fault Url :=
  match splitScheme? (cleaned text.toList) with
  | none => .error .relative
  | some (scheme, r) =>
    let u : Url := { scheme := scheme }
    if scheme = "file" then readFile u r
    else if isSpecial scheme then readRest u (r.dropWhile fun c => c == '/' || c == '\\')
    else
      match r with
      | '/' :: '/' :: r' => readRest u r'
      | '/' :: _ => .ok (u.withTail true r)
      | _ => .ok (u.withTail false r)

/-- The user part of an authority with its at sign. -/
def userText (u : Url) : String :=
  if u.username = "" && u.password.isNone then ""
  else u.username ++ (u.password.map (":" ++ ·)).getD "" ++ "@"

/-- A URL as text. -/
def text (u : Url) : String :=
  let authority := match u.host with
    | none => ""
    | some h => "//" ++ u.userText ++ h.text ++ (u.port.map fun p => ":" ++ toString p).getD ""
  u.scheme ++ ":" ++ authority ++ u.path ++ (u.query.map ("?" ++ ·)).getD "" ++
    (u.fragment.map ("#" ++ ·)).getD ""

/-- The port to connect to. -/
def effectivePort (u : Url) : Nat := u.port.getD ((impliedPort? u.scheme).getD 80)

end Url

end Turnpike
