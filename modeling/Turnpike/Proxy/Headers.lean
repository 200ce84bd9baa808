/-
  Headers on their way through the proxy.

  Some headers concern one connection only: a fixed set of them, and those that a connection header
  names.  They are left out on both ways.  Towards the server the proxy states the client, the
  protocol and the host of the request; what the client itself has stated of them counts only where
  the frontend trusts it.
-/
import Turnpike.Entity.Basic
import Turnpike.Http.Request

namespace Turnpike.Proxy

open Turnpike.Text Turnpike.Http

/-- The headers that always concern one connection only. -/
def hopByHop : List String :=
  ["connection", "proxy-authenticate", "proxy-authorization", "te", "trailer", "transfer-encoding",
    "upgrade", "keep-alive"]

/-- A text without the blanks and tabs at its ends. -/
def trimmed (s : List Char) : List Char :=
  let blank (c : Char) : Bool := c == ' ' || c == '\t'
  ((s.dropWhile blank).reverse.dropWhile blank).reverse

/-- The header names in a list of names; what is no header name is passed over. -/
def listedNames (value : String) : List String :=
  (splitAll ',' value.toList).filterMap fun s => headerName? (String.ofList (trimmed s))

/-- The names that the connection headers list, as far as they can be read. -/
def connectionNames (h : Headers) : List String :=
  ((h.values "connection").filter isReadable).flatMap listedNames

/-- The headers without those of some names. -/
def without (h : Headers) (names : List String) : Headers :=
  ⟨h.fields.filter fun f => !names.contains f.1⟩

/-- The headers without those that concern one connection only. -/
def endToEnd (h : Headers) : Headers := without h (connectionNames h ++ hopByHop)

/-- Is there a header of that name? -/
def has (h : Headers) (name : String) : Bool := (h.get? name).isSome

/-- States the address of the client, behind those that a trusted client states. -/
def withClient (trust : Bool) (client : Option Address.Socket) (h : Headers) : Headers :=
  match client with
  | some c =>
    let value := match h.text? "x-forwarded-for" with
      | some prior => if trust then prior ++ ", " ++ c.ip.text else c.ip.text
      | none => c.ip.text
    h.set "x-forwarded-for" value
  | none => if trust then h else h.erase "x-forwarded-for"

/-- States the protocol, unless a trusted client does. -/
def withProtocol (trust : Bool) (h : Headers) : Headers :=
  if trust && has h "x-forwarded-proto" then h else h.set "x-forwarded-proto" "http"

/-- States the host, unless a trusted client does. -/
def withHost (trust : Bool) (host : Option String) (h : Headers) : Headers :=
  if trust && has h "x-forwarded-host" then h
  else
    match host.filter isReadable with
    | some name => h.set "x-forwarded-host" name
    | none => h.erase "x-forwarded-host"

/-- States where a request comes from. -/
def withOrigin (trust : Bool) (r : Request) (h : Headers) : Headers :=
  withHost trust r.host? (withProtocol trust (withClient trust r.client h))

/-- The headers that a server gets, at that authority, with a request. -/
def outboundHeaders (s : Entity.FrontendSettings) (r : Request) (authority : String) : Headers :=
  let h := withOrigin s.trustForwarded r (endToEnd r.headers)
  if s.passHost then h else h.set "host" authority

end Turnpike.Proxy
