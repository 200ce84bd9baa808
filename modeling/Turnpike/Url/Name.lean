/-
  Names of hosts — the one form in which a name is looked up.

  A name can hold letters of any script, capital or small, in one piece or with their marks apart, and
  can be in Punycode already.  It is looked up in ASCII, in one form only, which is found in steps:

  1. every character is put for what it stands for (`mapName?`);
  2. letters and their marks are put together (`composed`);
  3. the labels between the full stops are opened (`openLabel?`): one in Punycode is put for the label
     it stands for, and a label beyond ASCII must be well made, in that no mark comes first and that
     joiners are where they make a difference (`isLabel`);
  4. if some label has parts from right to left, every label must run in one direction (`isDirected`);
  5. labels beyond ASCII are put into Punycode (`closeLabel`), and the outcome must be free of the
     characters that take a URL apart (`isForbidden`).

  Hyphens may be anywhere in a label, and neither labels nor names have a greatest length.
-/
import Turnpike.Url.Joining
import Turnpike.Url.Punycode

namespace Turnpike.Url

open Turnpike.Text

/-- The characters that no name may hold. -/
def isForbidden (c : Char) : Bool :=
  c.toNat ≤ 0x20 || c == '\x7f' || "#/:<>?@[\\]^|%".toList.contains c

/-- Is the label in ASCII? -/
def isAscii (label : List Char) : Bool := label.all fun c => c.toNat < 0x80

/-- What a label in Punycode begins with. -/
def encodedSign : List Char := "xn--".toList

/-- May the characters make a label beyond ASCII? -/
def isLabel (label : List Char) : Bool :=
  label.all isNameChar && !label.head?.any isMark && joinsWell [] label

/-- Does the label stand behind the digits?  It must need them, be in composed form and not look like
    Punycode itself, and the digits must be the ones that it is written with. -/
def isEncodedBy (digits label : List Char) : Bool :=
  !isAscii label && isLabel label && composed label == label &&
    (after? encodedSign label).isNone && Punycode.encode label == digits

/-- The label that a label of a name stands for; none when it is not well made. -/
def openLabel? (label : List Char) : Option (List Char) :=
  match after? encodedSign label with
  | some digits => (Punycode.decode? digits).filter (isEncodedBy digits)
  | none => if isAscii label || isLabel label then some label else none

/-- A label in ASCII. -/
def closeLabel (label : List Char) : List Char :=
  if isAscii label then label else encodedSign ++ Punycode.encode label

/-- May the labels stand in one name? -/
def areDirected (labels : List (List Char)) : Bool :=
  !labels.any (·.any isRightward) || labels.all isDirected

/-- A name in ASCII; none when it is not valid. -/
def asciiName? (name : List Char) : Option (List Char) := do
  let name ← mapName? name
  let labels ← (splitAll '.' (composed name)).mapM openLabel?
  let ascii := ['.'].intercalate (labels.map closeLabel)
  if areDirected labels && !ascii.any isForbidden then some ascii else none

example : asciiName? "Bücher.Example".toList = some "xn--bcher-kva.example".toList := by
  decide +kernel

end Turnpike.Url
