/-
  Hosts of URLs — names and addresses.

  The host of a special URL is a name or an address.  Its percent signs are decoded, and a name is put
  into its ASCII form; a name whose last label is a number must be a version 4 address, in any of the
  traditional spellings.  A version 6 address stands in
  brackets and is written in its shortest form.  The host of any other URL is kept as it is, but for
  characters that have to be percent-encoded.
-/
import Turnpike.Address.Ip
import Turnpike.Text.Escaped
import Turnpike.Text.Utf8
import Turnpike.Url.Name

namespace Turnpike.Url

open Turnpike.Text Turnpike.Address

/-- Why a text is not a URL. -/
inductive Fault where
  | emptyHost
  | idna
  | port
  | ipv4
  | ipv6
  | domainCharacter
  | relative
  deriving DecidableEq, Repr

/-- The wording of a fault. -/
def Fault.message : Fault → String
  | emptyHost => "empty host"
  | idna => "invalid international domain name"
  | port => "invalid port number"
  | ipv4 => "invalid IPv4 address"
  | ipv6 => "invalid IPv6 address"
  | domainCharacter => "invalid domain character"
  | relative => "relative URL without a base"

/-! ## Percent signs -/

/-- A byte as two capital hexadecimal digits behind a percent sign. -/
def percent (b : UInt8) : List Char :=
  ['%', (Quoted.hexDigit (b.toNat / 16)).toUpper, (Quoted.hexDigit (b.toNat % 16)).toUpper]

/-- One character, with its bytes percent-encoded if it is in the set or beyond ASCII. -/
def encodeChar (set : Char → Bool) (c : Char) : List Char :=
  if 0x7f ≤ c.toNat || set c then (String.utf8EncodeChar c).flatMap percent else [c]

/-- A text with the characters of a set percent-encoded. -/
def encodeText (set : Char → Bool) (s : List Char) : List Char := s.flatMap (encodeChar set)

/-- The bytes of a text whose percent signs are decoded where two digits follow. -/
def decodePercent : List Char → List UInt8
  | [] => []
  | '%' :: a :: b :: r =>
    if isHex a && isHex b then UInt8.ofNat (hexValue a * 16 + hexValue b) :: decodePercent r
    else 0x25 :: decodePercent (a :: b :: r)
  | c :: r => String.utf8EncodeChar c ++ decodePercent r

/-! ## Version 4 addresses -/

/-- The digits of a number without the mark of its base, and the base. -/
def baseOf : List Char → List Char × Nat
  | '0' :: 'x' :: r => (r, 16)
  | '0' :: 'X' :: r => (r, 16)
  | '0' :: c :: r => (c :: r, 8)
  | s => (s, 10)

/-- A digit of a base. -/
def isDigitOf (base : Nat) (c : Char) : Bool := isHex c && hexValue c < base

/-- The number that a label spells: octal, decimal or hexadecimal. -/
def labelNumber? (label : List Char) : Option Nat :=
  if label = [] then none
  else
    let (ds, base) := baseOf label
    if ds.all (isDigitOf base) then some (ds.foldl (fun n c => n * base + hexValue c) 0) else none

/-- The labels of a name without the empty one at the end. -/
def numberedLabels (name : List Char) : List (List Char) :=
  let labels := splitAll '.' name
  if 1 < labels.length && labels.getLast? == some [] then labels.dropLast else labels

/-- Must the name be an address?  So it must when its last label is a number. -/
def endsInNumber (name : List Char) : Bool :=
  match (numberedLabels name).getLast? with
  | some last => last ≠ [] && (last.all Char.isDigit || (labelNumber? last).isSome)
  | none => false

/-- The address that numbers state: the last one fills all places that are left. -/
def assembleV4 (numbers : List Nat) : Option Ip :=
  match numbers.reverse with
  | [] => none
  | last :: front =>
    let front := front.reverse
    if 4 < numbers.length || front.any (255 < ·) || Nat.pow 256 (4 - front.length) ≤ last then none
    else
      let n := front.zipIdx.foldl (fun n (x, i) => n + x * Nat.pow 256 (3 - i)) last
      some (.v4 (n / 16777216) (n / 65536 % 256) (n / 256 % 256) (n % 256))

/-- The address that a name states. -/
def nameAddress? (name : List Char) : Option Ip :=
  ((numberedLabels name).mapM labelNumber?).bind assembleV4

/-! ## Hosts -/

/-- A host. -/
inductive Host where
  | name (s : String)
  | address (ip : Ip)
  deriving DecidableEq, Repr

/-- A host as text; addresses of version 6 in brackets. -/
def Host.text : Host → String
  | name s => s
  | address (.v6 gs) => "[" ++ compressed gs ++ "]"
  | address ip => ip.text

/-- The address between brackets. -/
def bracketed (s : List Char) : Except Fault Host :=
  match s.getLast? with
  | some ']' =>
    match readV6 0 s.dropLast with
    | some (gs, []) => .ok (.address (.v6 gs))
    | _ => .error .ipv6
  | _ => .error .ipv6

/-- The host of a special URL. -/
def specialHost (s : List Char) : Except Fault Host :=
  match s with
  | '[' :: r => bracketed r
  | _ =>
    match asciiName? (Utf8.decode (decodePercent s)) with
    | none => .error .idna
    | some [] => .error .emptyHost
    | some name =>
      if endsInNumber name then
        match nameAddress? name with
        | some ip => .ok (.address ip)
        | none => .error .ipv4
      else .ok (.name (String.ofList name))

/-- The characters that the host of no URL may hold. -/
def isForbiddenAnywhere (c : Char) : Bool := "\x00\t\n\r #/:<>?@[\\]^|".toList.contains c

/-- A control character. -/
def isControl (c : Char) : Bool := c.toNat < 0x20

/-- The host of a URL that is not special. -/
def opaqueHost (s : List Char) : Except Fault Host :=
  match s with
  | '[' :: r => bracketed r
  | _ =>
    if s.any isForbiddenAnywhere then .error .domainCharacter
    else .ok (.name (String.ofList (encodeText isControl s)))

end Turnpike.Url
