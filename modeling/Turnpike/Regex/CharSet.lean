/-
  Sets of characters.

  A set is kept as runs of code points, first and last of each, in order and apart from each other.
-/
import Turnpike.Text.Category
import Turnpike.Text.Folding

namespace Turnpike.Regex

open Turnpike.Text

/-- A set of characters by the runs of its code points. -/
structure CharSet where
  runs : List (Nat × Nat)
  deriving DecidableEq, Repr, Inhabited

namespace CharSet

/-- The last code point. -/
def lastCode : Nat := 0x10ffff

/-- Is the code point in the set? -/
def holds (s : CharSet) (n : Nat) : Bool := s.runs.any fun (a, b) => a ≤ n && n ≤ b

/-- Is the character in the set? -/
def contains (s : CharSet) (c : Char) : Bool := s.holds c.toNat

/-- Joins a run with those behind it, which are in order of their first code points, where they meet
    or overlap. -/
def joinFrom (a b : Nat) : List (Nat × Nat) → List (Nat × Nat)
  | [] => [(a, b)]
  | (c, d) :: r => if c ≤ b + 1 then joinFrom a (max b d) r else (a, b) :: joinFrom c d r

/-- Joins runs in order of their first code points where they meet or overlap. -/
def joined : List (Nat × Nat) → List (Nat × Nat)
  | [] => []
  | (a, b) :: r => joinFrom a b r

/-- The set of the given runs, in any order. -/
def ofRuns (l : List (Nat × Nat)) : CharSet :=
  ⟨joined ((l.filter fun (a, b) => a ≤ b).mergeSort fun x y => x.1 ≤ y.1)⟩

/-- No character. -/
def empty : CharSet := ⟨[]⟩

/-- Every character. -/
def full : CharSet := ⟨[(0, lastCode)]⟩

/-- One character. -/
def single (c : Char) : CharSet := ⟨[(c.toNat, c.toNat)]⟩

/-- The characters from one to another. -/
def range (a b : Char) : CharSet := ofRuns [(a.toNat, b.toNat)]

/-- The characters of either set. -/
def union (s t : CharSet) : CharSet := ofRuns (s.runs ++ t.runs)

/-- The gaps between runs, from a code point on. -/
def gaps (start : Nat) : List (Nat × Nat) → List (Nat × Nat)
  | [] => if start ≤ lastCode then [(start, lastCode)] else []
  | (a, b) :: r => if start < a then (start, a - 1) :: gaps (b + 1) r else gaps (b + 1) r

/-- The characters outside the set. -/
def complement (s : CharSet) : CharSet := ⟨gaps 0 s.runs⟩

/-- The characters of both sets. -/
def inter (s t : CharSet) : CharSet := (s.complement.union t.complement).complement

/-- The characters of the first set only. -/
def diff (s t : CharSet) : CharSet := s.inter t.complement

/-- The characters of exactly one of the sets. -/
def symmDiff (s t : CharSet) : CharSet := (s.diff t).union (t.diff s)

/-- The set of the given runs with steps. -/
def ofSteps (l : List Run) : CharSet :=
  ofRuns (l.flatMap fun r =>
    if r.step = 1 then [(r.first, r.last)]
    else
      (List.range ((r.last - r.first) / r.step + 1)).map fun i =>
        (r.first + i * r.step, r.first + i * r.step))

/-- The characters that differ from one of the set only in case. -/
def folded (s : CharSet) : CharSet :=
  let down := s.union (ofRuns ((foldings.filter (s.holds ·.1)).map fun (_, f) => (f, f)))
  down.union (ofRuns ((foldings.filter (down.holds ·.2)).map fun (c, _) => (c, c)))

/-- Like `folded`, among the letters of ASCII only. -/
def foldedAscii (s : CharSet) : CharSet :=
  let letters := (List.range 26).map fun i => (0x41 + i, 0x61 + i)
  s.union (ofRuns (((letters.filter (s.holds ·.1)).map fun (_, f) => (f, f)) ++
    (letters.filter (s.holds ·.2)).map fun (c, _) => (c, c)))

/-- Are all its characters ASCII? -/
def isAscii (s : CharSet) : Bool := s.runs.all fun (_, b) => b < 0x80

/-! ## Named sets -/

/-- The characters of some categories. -/
def ofCategories (cs : List Category) : CharSet := ofSteps (cs.flatMap (·.runs))

/-- Decimal digits. -/
def digits : CharSet := ofCategories [.decimalNumber]

/-- White space. -/
def spaces : CharSet :=
  ofRuns [(0x9, 0xd), (0x20, 0x20), (0x85, 0x85), (0xa0, 0xa0), (0x1680, 0x1680),
    (0x2000, 0x200a), (0x2028, 0x2029), (0x202f, 0x202f), (0x205f, 0x205f), (0x3000, 0x3000)]

/-- Letters, and numbers that are letters. -/
def letterCategories : List Category :=
  [.upperLetter, .lowerLetter, .titleLetter, .modifierLetter, .otherLetter, .letterNumber]

/-- Characters that spell words. -/
def alphabetic : CharSet :=
  (ofCategories letterCategories).union (ofSteps otherAlphabeticRuns)

/-- The characters of words: those that spell words, marks, digits, and what connects them. -/
def wordChars : CharSet :=
  ((alphabetic.union (ofCategories
    [.nonspacingMark, .spacingMark, .enclosingMark, .decimalNumber, .connector]))).union
    (ofRuns [(0x200c, 0x200d)])

/-- Digits, white space and characters of words in ASCII. -/
def asciiDigits : CharSet := range '0' '9'

def asciiSpaces : CharSet := ofRuns [(0x9, 0xd), (0x20, 0x20)]

def asciiWordChars : CharSet :=
  ofRuns [(0x30, 0x39), (0x41, 0x5a), (0x5f, 0x5f), (0x61, 0x7a)]

end CharSet

end Turnpike.Regex
