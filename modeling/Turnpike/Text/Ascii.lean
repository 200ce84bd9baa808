/-
  ASCII case and classes.

  Host names, methods and header names compare without regard to the case of ASCII letters, and
  only of those: every other character stands for itself.
-/

namespace Turnpike.Text

/-- The string with its ASCII capitals made small. -/
def lowerAscii (s : String) : String := String.ofList (s.toList.map Char.toLower)

/-- The string with its small ASCII letters made capital. -/
def upperAscii (s : String) : String := String.ofList (s.toList.map Char.toUpper)

@[simp] theorem toList_lowerAscii (s : String) :
    (lowerAscii s).toList = s.toList.map Char.toLower := String.toList_ofList

@[simp] theorem toList_upperAscii (s : String) :
    (upperAscii s).toList = s.toList.map Char.toUpper := String.toList_ofList

/-- Equality up to the case of ASCII letters. -/
def sameLetters (a b : String) : Bool := lowerAscii a == lowerAscii b

theorem sameLetters_iff {a b : String} :
    sameLetters a b = true ↔ lowerAscii a = lowerAscii b := beq_iff_eq

/-- A hexadecimal digit of either case. -/
def isHex (c : Char) : Bool :=
  c.isDigit || ('a' ≤ c && c ≤ 'f') || ('A' ≤ c && c ≤ 'F')

/-- The value of a hexadecimal digit. -/
def hexValue (c : Char) : Nat :=
  if c.isDigit then c.toNat - 48
  else if 'a' ≤ c && c ≤ 'f' then c.toNat - 87
  else c.toNat - 55

/-- The value of a decimal digit. -/
def digitValue (c : Char) : Nat := c.toNat - 48

/-- The number that decimal digits spell, after a first part already worth `acc`. -/
def decimalFrom (acc : Nat) (ds : List Char) : Nat :=
  ds.foldl (fun n c => n * 10 + digitValue c) acc

/-- The number that decimal digits spell. -/
def decimal (ds : List Char) : Nat := decimalFrom 0 ds

/-- A character of a token, as methods and header names are made of them. -/
def isTokenChar (c : Char) : Bool :=
  c.isAlphanum || "!#$%&'*+-.^_\x60|~".toList.contains c

/-- The two parts around the first occurrence of a separator. -/
def splitFirst? (sep : Char) : List Char → Option (List Char × List Char)
  | [] => none
  | c :: r => if c = sep then some ([], r) else (splitFirst? sep r).map fun (a, b) => (c :: a, b)

/-- The two parts around the last occurrence of a separator. -/
def splitLast? (sep : Char) (s : List Char) : Option (List Char × List Char) :=
  (splitFirst? sep s.reverse).map fun (b, a) => (a.reverse, b.reverse)

/-- The parts between the occurrences of a separator; always at least one. -/
def splitAll (sep : Char) : List Char → List (List Char)
  | [] => [[]]
  | c :: r =>
    if c = sep then [] :: splitAll sep r
    else
      match splitAll sep r with
      | [] => [[c]]
      | p :: ps => (c :: p) :: ps

/-- What is left after a prefix, when the text has it. -/
def after? : List Char → List Char → Option (List Char)
  | [], s => some s
  | p :: ps, c :: s => if p = c then after? ps s else none
  | _ :: _, [] => none

/-- The text without the run of one character at its end. -/
def trimEnd (c : Char) (s : List Char) : List Char := (s.reverse.dropWhile (· == c)).reverse

/-- The text without the run of one character at its start. -/
def trimStart (c : Char) (s : List Char) : List Char := s.dropWhile (· == c)

end Turnpike.Text
