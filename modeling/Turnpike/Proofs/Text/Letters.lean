/-
  The case of letters.

  Hosts, methods and names of headers compare without regard to the case of ASCII letters.  A letter
  of ASCII is put into the other case by a fixed distance between code points, and every other
  character stays as it is.  A program may also ask for the lower case of all of Unicode, which is a
  different function; where one part of a program uses the one and another part the other, they must
  be compared.

  1. **Characters** (`toNat_toLower`, `toNat_toUpper`).  Case is arithmetic of code points.  All
     else about single characters — to change the case twice is to change it once, digits are left
     alone — is a comparison of numbers, and is shown as such, by linear arithmetic.

  2. **Texts.**  What holds of characters holds of texts, character by character.  A character that
     is no letter is met in a text just when it is met in its small letters (`mem_lower_iff`), so
     that dots, colons and slashes can be looked for before or after.

  3. **Capitals of all of Unicode** (`IsCapital`).  A character is a capital when lower case changes
     it.  The lower case of a text is not put together of those of its characters alone: a sigma
     depends on what is around it, and one capital becomes two characters.  But no character becomes
     none (`length_le_lowerFrom`), and those two never become the small letter that ASCII would give
     them.  So lower case leaves nothing for ASCII to change, or changes nothing but ASCII, exactly
     when no character is a capital outside ASCII (`lower_lowerFrom_iff`,
     `not_isCapital_toLower_iff`).
-/
import Turnpike.Text.Ascii
import Turnpike.Text.Lowercase

namespace Turnpike.Text

/-! ## Characters -/

/-- Capitals of ASCII stand 32 places before their small letters. -/
theorem toNat_toLower (c : Char) :
    c.toLower.toNat = if 65 ≤ c.toNat ∧ c.toNat ≤ 90 then c.toNat + 32 else c.toNat := by
  have hrange : (c.val ≥ 'A'.val ∧ c.val ≤ 'Z'.val) ↔ 65 ≤ c.toNat ∧ c.toNat ≤ 90 := by
    rw [ge_iff_le, UInt32.le_iff_toNat_le, UInt32.le_iff_toNat_le]
    rfl
  unfold Char.toLower
  split
  case isTrue h =>
    have hle := hrange.mp h
    rw [if_pos hle]
    show (c.val + ('a'.val - 'A'.val)).toNat = c.toNat + 32
    rw [UInt32.toNat_add]
    show (c.toNat + 32) % 2 ^ 32 = c.toNat + 32
    omega
  case isFalse h => rw [if_neg (mt hrange.mpr h)]

/-- Small letters of ASCII stand 32 places behind their capitals. -/
theorem toNat_toUpper (c : Char) :
    c.toUpper.toNat = if 97 ≤ c.toNat ∧ c.toNat ≤ 122 then c.toNat - 32 else c.toNat := by
  have hrange : (c.val ≥ 'a'.val ∧ c.val ≤ 'z'.val) ↔ 97 ≤ c.toNat ∧ c.toNat ≤ 122 := by
    rw [ge_iff_le, UInt32.le_iff_toNat_le, UInt32.le_iff_toNat_le]
    rfl
  unfold Char.toUpper
  split
  case isTrue h =>
    have hle := hrange.mp h
    rw [if_pos hle]
    -- the distance is negative, and wraps around
    have hdistance : ('A'.val - 'a'.val).toNat = 4294967264 := by decide
    show (c.val + ('A'.val - 'a'.val)).toNat = c.toNat - 32
    rw [UInt32.toNat_add, hdistance]
    show (c.toNat + 4294967264) % 2 ^ 32 = c.toNat - 32
    omega
  case isFalse h => rw [if_neg (mt hrange.mpr h)]

/-- A small letter stays when it is made small. -/
theorem toLower_toLower (c : Char) : c.toLower.toLower = c.toLower := by
  -- characters are equal when their numbers are
  apply Char.toNat_inj.mp
  rw [toNat_toLower c.toLower, toNat_toLower c]
  by_cases h : 65 ≤ c.toNat ∧ c.toNat ≤ 90
  · rw [if_pos h, if_neg (by omega)]
  · rw [if_neg h, if_neg h]

/-- A capital stays when it is made a capital. -/
theorem toUpper_toUpper (c : Char) : c.toUpper.toUpper = c.toUpper := by
  apply Char.toNat_inj.mp
  rw [toNat_toUpper c.toUpper, toNat_toUpper c]
  by_cases h : 97 ≤ c.toNat ∧ c.toNat ≤ 122
  · rw [if_pos h, if_neg (by omega)]
  · rw [if_neg h, if_neg h]

/-- The small letter of a character is one that is no letter only when the character is that one. -/
theorem toLower_eq_iff {c d : Char}
    (hd : d.toNat < 65 ∨ 90 < d.toNat ∧ d.toNat < 97 ∨ 122 < d.toNat) :
    c.toLower = d ↔ c = d := by
  rw [← Char.toNat_inj, ← Char.toNat_inj, toNat_toLower]
  split <;> omega

/-- Digits by their code points. -/
theorem isDigit_iff {c : Char} : c.isDigit = true ↔ 48 ≤ c.toNat ∧ c.toNat ≤ 57 := by
  unfold Char.isDigit
  rw [Bool.and_eq_true, decide_eq_true_iff, decide_eq_true_iff, ge_iff_le, UInt32.le_iff_toNat_le,
    UInt32.le_iff_toNat_le]
  rfl

/-- Letters by their code points. -/
theorem isAlpha_iff {c : Char} : c.isAlpha = true ↔
    (65 ≤ c.toNat ∧ c.toNat ≤ 90) ∨ (97 ≤ c.toNat ∧ c.toNat ≤ 122) := by
  unfold Char.isAlpha Char.isUpper Char.isLower
  simp only [Bool.or_eq_true, Bool.and_eq_true, decide_eq_true_eq, ge_iff_le,
    UInt32.le_iff_toNat_le]
  rfl

theorem isAlphanum_iff {c : Char} : c.isAlphanum = true ↔
    (65 ≤ c.toNat ∧ c.toNat ≤ 90) ∨ (97 ≤ c.toNat ∧ c.toNat ≤ 122) ∨
      (48 ≤ c.toNat ∧ c.toNat ≤ 57) := by
  rw [Char.isAlphanum, Bool.or_eq_true, isAlpha_iff, isDigit_iff, or_assoc]

theorem isDigit_toLower (c : Char) : c.toLower.isDigit = c.isDigit := by
  rw [Bool.eq_iff_iff, isDigit_iff, isDigit_iff, toNat_toLower]
  split <;> omega

/-! ## Texts -/

/-- A text of digits stays one in small letters, and only such a text becomes one. -/
theorem all_isDigit_lower (s : List Char) :
    (s.map Char.toLower).all Char.isDigit = s.all Char.isDigit := by
  rw [List.all_map]
  exact congrArg s.all (funext isDigit_toLower)

theorem lowerAscii_lowerAscii (s : String) : lowerAscii (lowerAscii s) = lowerAscii s := by
  apply String.toList_inj.mp
  rw [toList_lowerAscii, toList_lowerAscii, List.map_map]
  exact List.map_congr_left fun c _ => toLower_toLower c

theorem upperAscii_upperAscii (s : String) : upperAscii (upperAscii s) = upperAscii s := by
  apply String.toList_inj.mp
  rw [toList_upperAscii, toList_upperAscii, List.map_map]
  exact List.map_congr_left fun c _ => toUpper_toUpper c

theorem lowerAscii_eq_iff {s t : String} : lowerAscii s = lowerAscii t ↔
    s.toList.map Char.toLower = t.toList.map Char.toLower := String.ofList_inj

/-- What is no letter occurs in a text just when it occurs in its small letters. -/
theorem mem_lower_iff {d : Char}
    (hd : d.toNat < 65 ∨ 90 < d.toNat ∧ d.toNat < 97 ∨ 122 < d.toNat) {s : List Char} :
    d ∈ s.map Char.toLower ↔ d ∈ s := by
  rw [List.mem_map]
  constructor
  · rintro ⟨c, hc, heq⟩
    rwa [(toLower_eq_iff hd).mp heq] at hc
  · intro hmem
    exact ⟨d, hmem, (toLower_eq_iff hd).mpr rfl⟩

/-! ## Capitals of all of Unicode -/

/-- The character is changed when it is put into lower case. -/
def IsCapital (c : Char) : Prop :=
  lowercase (String.singleton c) ≠ String.singleton c

instance : DecidablePred IsCapital := fun c =>
  inferInstanceAs (Decidable (lowercase (String.singleton c) ≠ String.singleton c))

/-- A character that is no capital stands for itself at the beginning of a text. -/
theorem not_isCapital_iff {c : Char} : ¬IsCapital c ↔ lowerFrom [] [c] = [c] := by
  unfold IsCapital
  rw [Decidable.not_not, ← String.toList_inj, lowercase, String.toList_ofList,
    String.toList_singleton]

example : IsCapital 'É' ∧ ¬IsCapital 'é' := by decide +kernel

/-- Lower case makes no text shorter. -/
theorem length_le_lowerFrom (before s : List Char) : s.length ≤ (lowerFrom before s).length := by
  induction s generalizing before with
  | nil => exact Nat.zero_le _
  | cons c s ih =>
    have hrest := ih (c :: before)
    -- every branch writes one character at least
    rw [lowerFrom, List.length_append, List.length_cons]
    split
    case isTrue => rw [List.length_singleton]; omega
    case isFalse =>
      split
      · rw [List.length_cons]; omega
      · rw [List.length_singleton]; omega

/-- All characters but two are put into lower case by themselves. -/
theorem lowerFrom_cons {c : Char} (hsigma : c ≠ 'Σ') (hdot : c ≠ 'İ') (before s : List Char) :
    lowerFrom before (c :: s) = lowerChar c :: lowerFrom (c :: before) s := by
  rw [lowerFrom, if_neg hsigma, if_neg hdot]
  rfl

/-- ASCII has no small letters of other characters. -/
theorem toLower_lowerChar_iff {c : Char} :
    (lowerChar c).toLower = c ↔ lowerChar c = c := by
  by_cases hascii : c.toNat < 128
  · rw [lowerChar, if_pos hascii, toLower_toLower]
  · exact toLower_eq_iff (.inr (.inr (by omega)))

/-- What lower case leaves, but for letters of ASCII, is a text without capitals. -/
theorem lower_lowerFrom_iff {before s : List Char} :
    (lowerFrom before s).map Char.toLower = s ↔ ∀ c ∈ s, ¬IsCapital c := by
  induction s generalizing before with
  | nil => exact iff_of_true rfl nofun
  | cons c s ih =>
    rw [List.forall_mem_cons, ← @ih (c :: before)]
    -- the two characters that are not put into lower case by themselves are capitals
    by_cases hsigma : c = 'Σ'
    · subst hsigma
      refine iff_of_false ?_ fun h => absurd h.1 (by decide +kernel)
      rw [lowerFrom, if_pos rfl]
      split <;> exact fun h => absurd (List.cons.inj h).1 (by decide)
    by_cases hdot : c = 'İ'
    · subst hdot
      refine iff_of_false ?_ fun h => absurd h.1 (by decide +kernel)
      rw [lowerFrom, if_neg hsigma, if_pos rfl]
      exact fun h => absurd (List.cons.inj h).1 (by decide)
    rw [not_isCapital_iff, lowerFrom_cons hsigma hdot, lowerFrom_cons hsigma hdot, List.map_cons,
      List.cons.injEq, List.cons.injEq, toLower_lowerChar_iff]
    exact and_congr_left' (and_iff_left rfl).symm

/-- The small letter of a character is no capital, if the character is not one outside ASCII. -/
theorem not_isCapital_toLower_iff {c : Char} :
    ¬IsCapital c.toLower ↔ (IsCapital c → c.toNat < 128) := by
  -- within ASCII the small letter is no capital; outside it, the character is its own
  by_cases hascii : c.toNat < 128
  · refine iff_of_true ?_ fun _ => hascii
    have hlower : c.toLower.toNat < 128 := by
      rw [toNat_toLower]
      split <;> omega
    have hsigma : c.toLower ≠ 'Σ' := fun h => absurd (h ▸ hlower) (by decide)
    have hdot : c.toLower ≠ 'İ' := fun h => absurd (h ▸ hlower) (by decide)
    rw [not_isCapital_iff, lowerFrom_cons hsigma hdot, lowerChar, if_pos hlower, toLower_toLower]
    rfl
  · have hsame : c.toLower = c := by
      rw [← Char.toNat_inj, toNat_toLower, if_neg (by omega)]
    rw [hsame]
    exact ⟨fun h hcapital => absurd hcapital h, fun h hcapital => hascii (h hcapital)⟩

end Turnpike.Text
