/-
  The order of texts and the order of their bytes.

  Texts compare character by character, by the numbers of the characters; stored bytes compare byte
  by byte.  Dictionaries here are sorted by texts, and what they stand for is sorted by bytes, so
  that the two orders have to be the same.

  1. **One character** (`char_bytes_lt`).  Of two characters the one with the smaller number has the
     smaller bytes, whatever follows.  A character beyond ASCII has two to four bytes; the first one
     tells how many there are, and is the greater the more there are, and the others count in base
     64.  So a case split over the two lengths leaves comparisons of digits, which are linear
     arithmetic.

  2. **Texts** (`encode_lt`).  By induction over both texts: they are decided at the first character
     in which they differ, and up to there the bytes are the same.

  3. **Both ways** (`bytes_lt_iff`).  Both orders are total, so that one direction is enough.
-/
import Turnpike.Proofs.Text.Utf8

namespace Turnpike.Text.Utf8

/-- Bytes are compared as numbers, and the rest only behind equal ones. -/
theorem byte_cons_lt_iff {m n : Nat} (hm : m < 256) (hn : n < 256) (s t : List UInt8) :
    UInt8.ofNat m :: s < UInt8.ofNat n :: t ↔ m < n ∨ m = n ∧ s < t := by
  rw [List.cons_lt_cons_iff, UInt8.lt_iff_toNat_lt, ← UInt8.toNat_inj, toNat_byte hm, toNat_byte hn]

/-- The bytes of a smaller character are smaller. -/
theorem char_bytes_lt {c d : Char} (h : c < d) (s t : List UInt8) :
    String.utf8EncodeChar c ++ s < String.utf8EncodeChar d ++ t := by
  have hd : d.val.toNat < 0x110000 := by
    rcases d.valid with h | h
    · exact Nat.lt_trans h (by decide)
    · exact h.2
  have hlt : c.val.toNat < d.val.toNat := h
  unfold String.utf8EncodeChar
  generalize c.val.toNat = m at hlt
  generalize d.val.toNat = n at hlt hd
  -- both numbers by their digits in base 64
  have hdigits (k : Nat) (hk : k < 0x110000) : k = k % 64 + 64 * (k / 64 % 64) +
      4096 * (k / 4096 % 64) + 262144 * (k / 262144 % 8) := by omega
  have hm := hdigits m (Nat.lt_trans hlt hd)
  have hn := hdigits n hd
  dsimp only
  -- by the numbers of bytes of both; a shorter one has a smaller first byte
  repeat' split
  all_goals
    simp (disch := omega) only [List.cons_append, List.nil_append, byte_cons_lt_iff]
    omega

/-- The bytes of a smaller text are smaller. -/
theorem encode_lt {s t : List Char} (h : s < t) : encode s < encode t := by
  induction s generalizing t with
  | nil =>
    cases t with
    | nil => exact absurd h (List.lt_irrefl _)
    | cons d t =>
      rw [encode_cons]
      obtain ⟨b, bs, hb⟩ := List.exists_cons_of_ne_nil (String.utf8EncodeChar_ne_nil (c := d))
      rw [hb]
      exact List.nil_lt_cons _ _
  | cons c s ih =>
    cases t with
    | nil => exact absurd h (List.not_lt_nil _)
    | cons d t =>
      rw [encode_cons, encode_cons]
      -- either the first characters decide, or they are equal
      rcases List.cons_lt_cons_iff.mp h with hlt | ⟨rfl, hlt⟩
      · exact char_bytes_lt hlt _ _
      · exact List.append_left_lt (ih hlt)

/-- Texts stand in the order of their bytes. -/
theorem bytes_lt_iff {a b : String} : bytes a < bytes b ↔ a < b := by
  have himp {a b : String} (h : a < b) : bytes a < bytes b := encode_lt (String.lt_iff.mp h)
  refine ⟨fun h => ?_, himp⟩
  -- were the texts in the other order, so would be their bytes
  have hle : a ≤ b := Std.not_lt.mp fun hgt => List.lt_asymm (himp hgt) h
  refine Std.lt_of_le_of_ne hle ?_
  rintro rfl
  exact List.lt_irrefl _ h

end Turnpike.Text.Utf8
