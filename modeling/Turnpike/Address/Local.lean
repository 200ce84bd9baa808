/-
  Local addresses — which addresses this host can listen on.

  The host stands alone, without neighbours: every address of version 4 is its own, of version 6 the
  unspecified one and those that stand for an address of version 4.  An address may be given by name
  too; the only name is that of the host itself.
-/
import Turnpike.Address.Socket
import Turnpike.Url.Host

namespace Turnpike.Address

open Turnpike.Text

/-- Is the address one of this host? -/
def isLocal : Ip → Bool
  | .v4 .. => true
  | .v6 gs => gs = [0, 0, 0, 0, 0, 0, 0, 0] ∨ gs.take 6 = [0, 0, 0, 0, 0, 0xffff]

/-- The address that a name stands for. -/
def named? (name : List Char) : Option Ip :=
  if name = "localhost".toList then some (.v4 127 0 0 1) else Url.nameAddress? name

/-- The address that a listener at this place listens on, if it can. -/
def bindable? (place : String) : Option Ip :=
  let ip := match Socket.parse? place with
    | some a => some a.ip
    | none =>
      match splitLast? ':' place.toList with
      | some (name, port) => if (signedPort? port).isSome then named? name else none
      | none => none
  ip.filter isLocal

end Turnpike.Address
