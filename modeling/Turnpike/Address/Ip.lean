/-
  IP addresses — reading and writing.

  Version 4 is four decimal numbers up to 255, without leading zeros, between dots.  Version 6 is
  eight groups of up to four hexadecimal digits between colons; one run of zero groups may be
  written as a double colon, and the last two groups as a version 4 address.

  Writing picks the first longest run of at least two zero groups for the double colon, and shows
  the mapped version 4 range with its dots.
-/
import Turnpike.Text.Ascii
import Turnpike.Text.Quoted

namespace Turnpike.Address

open Turnpike.Text

/-- An address: four numbers, or eight groups. -/
inductive Ip where
  | v4 (a b c d : Nat)
  | v6 (groups : List Nat)
  deriving DecidableEq, Repr

/-! ## Reading -/

/-- A decimal number up to `max`, of at most `width` digits and without a leading zero, at the head
    of a text. -/
def readOctet (s : List Char) : Option (Nat × List Char) :=
  let ds := s.takeWhile Char.isDigit
  if ds = [] || 3 < ds.length || (ds.head? = some '0' && 1 < ds.length) || 255 < decimal ds then
    none
  else some (decimal ds, s.dropWhile Char.isDigit)

/-- The text behind a character, when it begins with it. -/
def expect (c : Char) : List Char → Option (List Char)
  | [] => none
  | d :: r => if c = d then some r else none

/-- A version 4 address at the head of a text. -/
def readV4 (s : List Char) : Option ((Nat × Nat × Nat × Nat) × List Char) := do
  let (a, s) ← readOctet s
  let s ← expect '.' s
  let (b, s) ← readOctet s
  let s ← expect '.' s
  let (c, s) ← readOctet s
  let s ← expect '.' s
  let (d, s) ← readOctet s
  some ((a, b, c, d), s)

/-- The number that hexadecimal digits spell. -/
def hexadecimal (ds : List Char) : Nat := ds.foldl (fun n c => n * 16 + hexValue c) 0

/-- A group of one to four hexadecimal digits at the head of a text. -/
def readGroup (s : List Char) : Option (Nat × List Char) :=
  let ds := s.takeWhile isHex
  if ds = [] || 4 < ds.length then none else some (hexadecimal ds, s.dropWhile isHex)

/-- The text behind the colon that stands before every group but the first. -/
def skipColon (first : Bool) (s : List Char) : Option (List Char) :=
  if first then some s else expect ':' s

/-- Groups at the head of a text, at most `limit`.  Two of them may be given as a version 4 address,
    which ends the run; the flag says so. -/
def readGroups (first : Bool) : Nat → List Char → List Nat × Bool × List Char
  | 0, s => ([], false, s)
  | limit + 1, s =>
    match (if 1 ≤ limit then (skipColon first s).bind readV4 else none) with
    | some ((a, b, c, d), r) => ([a * 256 + b, c * 256 + d], true, r)
    | none =>
      match (skipColon first s).bind readGroup with
      | none => ([], false, s)
      | some (g, r) =>
        let (gs, dotted, r) := readGroups false limit r
        (g :: gs, dotted, r)

/-- A version 6 address at the head of a text, in which a double colon stands for `least` groups at
    least. -/
def readV6 (least : Nat) (s : List Char) : Option (List Nat × List Char) :=
  let (front, dotted, r) := readGroups true 8 s
  if front.length = 8 then some (front, r)
  else if dotted then none
  else do
    let r ← expect ':' r
    let r ← expect ':' r
    let (back, _, r) := readGroups true (8 - least - front.length) r
    some (front ++ List.replicate (8 - front.length - back.length) 0 ++ back, r)

/-! ## Writing -/

/-- A group in hexadecimal, without leading zeros. -/
def groupText (n : Nat) : String := String.ofList (Quoted.hex n)

/-- Groups with colons between them. -/
def groupsText (gs : List Nat) : String := ":".intercalate (gs.map groupText)

/-- The length of the run of zeros at the head. -/
def zeroRun (gs : List Nat) : Nat := (gs.takeWhile (· == 0)).length

/-- Start and length of the first longest run of zeros. -/
def longestZeros (gs : List Nat) : Nat × Nat :=
  (List.range gs.length).foldl (fun best i =>
    let n := zeroRun (gs.drop i)
    if best.2 < n then (i, n) else best) (0, 0)

/-- Eight groups with the longest run of zeros as a double colon. -/
def compressed (gs : List Nat) : String :=
  let (start, n) := longestZeros gs
  if 1 < n then groupsText (gs.take start) ++ "::" ++ groupsText (gs.drop (start + n))
  else groupsText gs

/-- Four numbers with dots between them. -/
def dottedText (a b c d : Nat) : String :=
  ".".intercalate ([a, b, c, d].map toString)

/-- An address as text. -/
def Ip.text : Ip → String
  | .v4 a b c d => dottedText a b c d
  | .v6 [0, 0, 0, 0, 0, 0xffff, g, h] =>
    "::ffff:" ++ dottedText (g / 256) (g % 256) (h / 256) (h % 256)
  | .v6 gs => compressed gs

end Turnpike.Address
