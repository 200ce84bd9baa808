/-
  Punycode — labels beyond ASCII as ASCII letters and digits.

  The ASCII characters of a label come first.  The others follow in ascending order, each as the
  number of insertion points passed since the one before, counted over all code points and all
  places.  Numbers are written in base 36 with digits whose weights depend on a bias, which adapts
  to the numbers seen so far.
-/
import Turnpike.Text.Ascii

set_option linter.unusedVariables false

namespace Turnpike.Url.Punycode

open Turnpike.Text

/-- A digit: letters for the first twenty-six values, decimal digits for the last ten. -/
def digit (n : Nat) : Char := Char.ofNat (if n < 26 then 97 + n else 22 + n)

/-- The value of a digit. -/
def digitValue? (c : Char) : Option Nat :=
  if c.isLower then some (c.toNat - 97)
  else if c.isUpper then some (c.toNat - 65)
  else if c.isDigit then some (c.toNat - 22)
  else none

/-- The least value at which the digit of place `k` is not the last one. -/
def threshold (bias k : Nat) : Nat := min (max (k - bias) 1) 26

/-- Shrinks a number until it is at most 455 and counts thirty-six for each step. -/
def shrink (delta : Nat) : Nat × Nat :=
  if 455 < delta then let r := shrink (delta / 35); (r.1, r.2 + 36) else (delta, 0)
termination_by delta
decreasing_by omega

/-- The bias after a number, when `count` characters are in place. -/
def adapt (delta count : Nat) (first : Bool) : Nat :=
  let d := if first then delta / 700 else delta / 2
  let r := shrink (d + d / count)
  r.2 + 36 * r.1 / (r.1 + 38)

/-! ## Encoding -/

/-- A number as digits, from place `k` on. -/
def number (bias k q : Nat) : List Char :=
  let t := threshold bias k
  if q < t then [digit q]
  else digit (t + (q - t) % (36 - t)) :: number bias (k + 36) ((q - t) / (36 - t))
termination_by q
decreasing_by
  have hp : 1 ≤ threshold bias k := by unfold threshold; omega
  have hl := Nat.div_le_self (q - threshold bias k) (36 - threshold bias k)
  omega

/-- The state of an encoding: what is written, the count so far, the bias, and the characters in
    place. -/
structure Writer where
  written : List Char
  delta : Nat
  bias : Nat
  placed : Nat

/-- Walks over one character of the label while the code point `m` is being placed. -/
def Writer.pass (basics m : Nat) (w : Writer) (c : Char) : Writer :=
  if c.toNat < m then { w with delta := w.delta + 1 }
  else if c.toNat = m then
    { written := w.written ++ number w.bias 36 w.delta
      delta := 0
      bias := adapt w.delta (w.placed + 1) (w.placed == basics)
      placed := w.placed + 1 }
  else w

/-- Places the code points in turn; `n` is the first one not yet considered. -/
def Writer.place (label : List Char) (basics : Nat) : List Nat → Nat → Writer → Writer
  | [], _, w => w
  | m :: ms, n, w =>
    let w := { w with delta := w.delta + (m - n) * (w.placed + 1) }
    let w := label.foldl (Writer.pass basics m) w
    Writer.place label basics ms (m + 1) { w with delta := w.delta + 1 }

/-- The code points of a label beyond ASCII, in ascending order, each once. -/
def codePoints (label : List Char) : List Nat :=
  (((label.filter fun c => 0x80 ≤ c.toNat).map Char.toNat).mergeSort).eraseDups

/-- A label in Punycode. -/
def encode (label : List Char) : List Char :=
  let basic := label.filter fun c => c.toNat < 0x80
  basic ++ (if basic = [] then [] else ['-']) ++
    (Writer.place label basic.length (codePoints label) 0x80 ⟨[], 0, 72, basic.length⟩).written

/-! ## Decoding -/

/-- A number at the head of the digits, added to `i`, and the digits after it. -/
def readNumber (bias : Nat) : Nat → Nat → Nat → List Char → Option (Nat × List Char)
  | _, _, _, [] => none
  | k, weight, i, c :: r =>
    match digitValue? c with
    | none => none
    | some d =>
      let t := threshold bias k
      if d < t then some (i + d * weight, r)
      else readNumber bias (k + 36) (weight * (36 - t)) (i + d * weight) r

theorem readNumber_length {bias k weight i : Nat} {s r : List Char} {v : Nat}
    (h : readNumber bias k weight i s = some (v, r)) : r.length < s.length := by
  fun_induction readNumber bias k weight i s with
  | case1 => cases h
  | case2 => cases h
  | case3 => cases h; simp
  | case4 _ _ _ _ _ _ _ _ _ ih => have := ih h; simp only [List.length_cons]; omega

/-- The characters that the digits insert into `out`, beginning at code point `n` and place `i`. -/
def insertAll (bias n i : Nat) (out : List Char) (s : List Char) : Option (List Char) :=
  match s with
  | [] => some out
  | c :: r =>
    match h : readNumber bias 36 1 i (c :: r) with
    | none => none
    | some (j, rest) =>
      let count := out.length + 1
      let m := n + j / count
      if m < 0xd800 || (0xdfff < m && m < 0x110000) then
        insertAll (adapt (j - i) count (i == 0)) m (j % count + 1)
          (out.insertIdx (j % count) (Char.ofNat m)) rest
      else none
termination_by s.length
decreasing_by have := readNumber_length h; simpa using this

/-- The label that a Punycode text stands for. -/
def decode? (s : List Char) : Option (List Char) :=
  if s.all fun c => c.toNat < 0x80 then
    match splitLast? '-' s with
    | some (basic, digits) => insertAll 72 0x80 0 basic digits
    | none => insertAll 72 0x80 0 [] s
  else none

end Turnpike.Url.Punycode
