/-
  Blank characters — the code points with the Unicode property White_Space.

  Twenty-five code points, in ten runs.  They separate the tokens of route expressions and of trip
  conditions, and count for nothing in patterns that are written with blanks.
-/

namespace Turnpike.Text

/-- The runs of White_Space, first and last code point of each. -/
def blankRuns : List (Nat × Nat) :=
  [(0x9, 0xd), (0x20, 0x20), (0x85, 0x85), (0xa0, 0xa0), (0x1680, 0x1680), (0x2000, 0x200a),
   (0x2028, 0x2029), (0x202f, 0x202f), (0x205f, 0x205f), (0x3000, 0x3000)]

/-- Membership in the White_Space runs. -/
def isBlank (c : Char) : Bool := blankRuns.any fun (lo, hi) => lo ≤ c.toNat && c.toNat ≤ hi

/-- Of the printable characters of ASCII, only the space is blank. -/
theorem isBlank_of_printable {c : Char} (h : 0x20 < c.toNat) (h' : c.toNat < 0x7f) :
    isBlank c = false := by
  simp only [isBlank, blankRuns, List.any_cons, List.any_nil, Bool.or_false, Bool.or_eq_false_iff,
    Bool.and_eq_false_imp, decide_eq_true_eq, decide_eq_false_iff_not]
  omega

example : isBlank '\x0b' = true ∧ isBlank '\u00a0' = true ∧ isBlank '\u200b' = false := by decide

end Turnpike.Text
