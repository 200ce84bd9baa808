/-
  Replacing matches.

  A replacement may refer to groups by number or by name: a dollar sign with the longest run of
  letters, digits and underscores behind it, or with a name in braces.  Two dollar signs stand for
  one, and one that begins no reference for itself.  A group that is not there, or took no part in
  the match, stands for nothing.
-/
import Turnpike.Regex.Program

namespace Turnpike.Regex

open Turnpike.Text

/-- The text of a group of a match. -/
def groupText (s : List Char) (m : Slots) (i : Nat) : List Char :=
  match m.getD (2 * i) none, m.getD (2 * i + 1) none with
  | some a, some b => (s.drop a).take (b - a)
  | _, _ => []

/-- The number that a reference states: a word of 64 bits, perhaps with a plus sign. -/
def referenceNumber? (name : List Char) : Option Nat :=
  let ds := match name with
    | '+' :: r => r
    | _ => name
  if ds = [] || !ds.all Char.isDigit || 0x10000000000000000 ≤ decimal ds then none else some (decimal ds)

/-- The text that a reference stands for. -/
def referenceText (p : Program) (s : List Char) (m : Slots) (name : List Char) : List Char :=
  match referenceNumber? name with
  | some i => groupText s m i
  | none =>
    match p.names.findIdx? (· == some (String.ofList name)) with
    | some i => groupText s m i
    | none => []

/-- A character of a reference without braces. -/
def isReferenceChar (c : Char) : Bool := c.isAlphanum || c == '_'

/-- The replacement of a match.  The number bounds the characters of the replacement still to be
    read. -/
def expandFor (p : Program) (s : List Char) (m : Slots) : Nat → List Char → List Char
  | 0, r => r
  | _, [] => []
  | fuel + 1, '$' :: r =>
    match r with
    | '$' :: r' => '$' :: expandFor p s m fuel r'
    | '\x7b' :: r' =>
      match splitFirst? '\x7d' r' with
      | some (name, r'') => referenceText p s m name ++ expandFor p s m fuel r''
      | none => '$' :: expandFor p s m fuel r
    | _ =>
      let name := r.takeWhile isReferenceChar
      if name = [] then '$' :: expandFor p s m fuel r
      else referenceText p s m name ++ expandFor p s m fuel (r.dropWhile isReferenceChar)
  | fuel + 1, c :: r => c :: expandFor p s m fuel r

/-- The replacement of a match. -/
def expand (p : Program) (s : List Char) (m : Slots) (replacement : List Char) : List Char :=
  expandFor p s m replacement.length replacement

/-- The text from a place on with its matches replaced. -/
def replaceFrom (p : Program) (s replacement : List Char) (position : Nat) :
    List Slots → List Char
  | [] => s.drop position
  | m :: ms =>
    (s.drop position).take ((bounds m).1 - position) ++ expand p s m replacement ++
      replaceFrom p s replacement (bounds m).2 ms

/-- The text with all its matches replaced; none when there is none. -/
def replaceAll? (p : Program) (s replacement : String) : Option String :=
  match p.all s.toList with
  | [] => none
  | ms => some (String.ofList (replaceFrom p s.toList replacement.toList 0 ms))

end Turnpike.Regex
