/-
  Socket addresses — an IP address with a port.

  A version 6 address stands in square brackets, where a numeric scope may follow it behind a
  percent sign.  A port is a decimal number up to 65535; it may have leading zeros.
-/
import Turnpike.Address.Ip

namespace Turnpike.Address

open Turnpike.Text

/-- An address and a port. -/
structure Socket where
  ip : Ip
  port : Nat
  deriving DecidableEq, Repr

/-- A port that fills the text. -/
def portOf? (s : List Char) : Option Nat :=
  if s ≠ [] ∧ s.all Char.isDigit ∧ decimal s < 65536 then some (decimal s) else none

/-- A port that may have a plus sign before it. -/
def signedPort? (s : List Char) : Option Nat :=
  match s with
  | '+' :: r => portOf? r
  | _ => portOf? s

/-- The text behind a numeric scope, or the text itself when there is none. -/
def skipScope (s : List Char) : Option (List Char) :=
  match s with
  | '%' :: r =>
    let ds := r.takeWhile Char.isDigit
    if ds = [] || 0x100000000 ≤ decimal ds then none else some (r.dropWhile Char.isDigit)
  | _ => some s

/-- The socket address that a text states. -/
def Socket.parse? (s : String) : Option Socket :=
  match s.toList with
  | '[' :: r => do
    let (gs, r) ← readV6 1 r
    let r ← skipScope r
    let r ← expect ']' r
    let r ← expect ':' r
    let port ← portOf? r
    some ⟨.v6 gs, port⟩
  | cs => do
    let ((a, b, c, d), r) ← readV4 cs
    let r ← expect ':' r
    let port ← portOf? r
    some ⟨.v4 a b c d, port⟩

/-- A socket address as text. -/
def Socket.text (a : Socket) : String :=
  match a.ip with
  | .v4 .. => a.ip.text ++ ":" ++ toString a.port
  | .v6 _ => "[" ++ a.ip.text ++ "]:" ++ toString a.port

example : (Socket.parse? "[2001:0DB8:0:0:0:0:0:1]:9").map Socket.text =
    some "[2001:db8::1]:9" := by cbv

example : Socket.parse? "01.2.3.4:80" = none := by cbv

end Turnpike.Address
