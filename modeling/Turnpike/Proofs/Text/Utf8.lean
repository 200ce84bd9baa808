/-
  Reading back what was encoded.

  Captured values, keys and paths are bytes in one place and texts in another.  Bytes are read as
  text without ever failing, by putting a mark for what is no character, and so the reader could
  lose something.  It loses nothing of bytes that were a text.

  1. **Bytes as numbers.**  A byte is a word, the bits of a character are digits of its number, and
     all that is shown of them is linear arithmetic over division and remainder.  `tailByte` is the
     byte that continues a character.

  2. **One character** (`next_one` to `next_four`).  There is one lemma for each number of bytes.
     The first byte tells how many there are; the second one is in a range that depends on the
     first, so that no character has a longer form, no surrogate has any, and there are none past
     the last; and the bits put together again give the number.

  3. **ASCII** (`ascii_mem_char_iff`).  A byte below 0x80 is a character by itself and never a part
     of another.  So whoever looks for a slash among the bytes finds the slashes of the text.

  4. **Texts** (`decode_encode`).  By induction over the text, with `decode_char_append` as the
     step: the bytes of a character, whatever follows them, are read as that character.  Therefore
     the bytes of a captured value are the value (`bytes_text_encode`).
-/
import Turnpike.Text.Utf8

namespace Turnpike.Text.Utf8

/-! ## Bytes made of numbers -/

theorem toNat_byte {n : Nat} (h : n < 256) : (UInt8.ofNat n).toNat = n :=
  UInt8.toNat_ofNat_of_lt' h

/-- The byte that continues a character with the last six bits of a number. -/
def tailByte (n : Nat) : UInt8 := UInt8.ofNat (n % 64 + 0x80)

theorem toNat_tailByte (n : Nat) : (tailByte n).toNat = n % 64 + 0x80 := toNat_byte (by omega)

theorem continues_tailByte (n : Nat) : continues (tailByte n) = true := by
  simp only [continues, UInt8.le_iff_toNat_le, toNat_tailByte, UInt8.reduceToNat, Bool.and_eq_true,
    decide_eq_true_eq]
  omega

theorem tailBits_tailByte (n : Nat) : tailBits (tailByte n) = n % 64 := by
  rw [tailBits, toNat_tailByte]; omega

/-! ## One character, by the number of its bytes -/

/-- A character of one byte is read. -/
theorem next_one {n : Nat} (h : n ≤ 0x7f) (rest : List UInt8) :
    next (UInt8.ofNat n) rest = (Char.ofNat n, rest) := by
  have hb := toNat_byte (show n < 256 by omega)
  have hlt : UInt8.ofNat n < 0x80 := by
    rw [UInt8.lt_iff_toNat_lt, hb]; exact Nat.lt_of_le_of_lt h (by decide)
  rw [next.eq_def, if_pos hlt, hb]

/-- A character of two bytes is read. -/
theorem next_two {n : Nat} (hl : 0x7f < n) (h : n ≤ 0x7ff) (rest : List UInt8) :
    next (UInt8.ofNat (n / 64 % 0x20 + 0xc0)) (tailByte n :: rest) = (Char.ofNat n, rest) := by
  have hb := toNat_byte (show n / 64 % 0x20 + 0xc0 < 256 by omega)
  -- the bits of both bytes make up the number
  have hn : (n / 64 % 0x20 + 0xc0) % 32 * 64 + n % 64 = n := by omega
  simp only [next, continues_tailByte, tailBits_tailByte, UInt8.lt_iff_toNat_lt,
    UInt8.le_iff_toNat_le, hb, UInt8.reduceToNat, hn]
  rw [if_neg (by omega), if_pos (by simp; omega), if_pos trivial]

/-- A character of three bytes is read. -/
theorem next_three {n : Nat} (hl : 0x7ff < n) (h : n ≤ 0xffff) (hv : n < 0xd800 ∨ 0xdfff < n)
    (rest : List UInt8) :
    next (UInt8.ofNat (n / 4096 % 0x10 + 0xe0)) (tailByte (n / 64) :: tailByte n :: rest) =
      (Char.ofNat n, rest) := by
  have hb := toNat_byte (show n / 4096 % 0x10 + 0xe0 < 256 by omega)
  have hn : (n / 4096 % 0x10 + 0xe0) % 16 * 4096 + n / 64 % 64 * 64 + n % 64 = n := by omega
  -- neither a shorter form nor a surrogate
  have hs : secondOfThree (UInt8.ofNat (n / 4096 % 0x10 + 0xe0)) (tailByte (n / 64)) = true := by
    simp only [secondOfThree, UInt8.le_iff_toNat_le, ← UInt8.toNat_inj, hb, toNat_tailByte,
      UInt8.reduceToNat, Bool.and_eq_true, decide_eq_true_eq]
    constructor <;> split <;> simp only [UInt8.reduceToNat] <;> omega
  -- the first byte is neither one of ASCII nor that of two bytes
  simp only [next, hs, continues_tailByte, tailBits_tailByte, UInt8.lt_iff_toNat_lt,
    UInt8.le_iff_toNat_le, hb, UInt8.reduceToNat, hn]
  rw [if_neg (by omega), if_neg (by simp), if_pos (by simp; omega), if_pos trivial, if_pos trivial]

/-- A character of four bytes is read. -/
theorem next_four {n : Nat} (hl : 0xffff < n) (h : n < 0x110000) (rest : List UInt8) :
    next (UInt8.ofNat (n / 262144 % 0x08 + 0xf0))
        (tailByte (n / 4096) :: tailByte (n / 64) :: tailByte n :: rest) =
      (Char.ofNat n, rest) := by
  have hb := toNat_byte (show n / 262144 % 0x08 + 0xf0 < 256 by omega)
  have hn : (n / 262144 % 0x08 + 0xf0) % 8 * 262144 + n / 4096 % 64 * 4096 + n / 64 % 64 * 64
      + n % 64 = n := by omega
  -- neither a shorter form nor past the last character
  have hs : secondOfFour (UInt8.ofNat (n / 262144 % 0x08 + 0xf0)) (tailByte (n / 4096)) = true := by
    simp only [secondOfFour, UInt8.le_iff_toNat_le, ← UInt8.toNat_inj, hb, toNat_tailByte,
      UInt8.reduceToNat, Bool.and_eq_true, decide_eq_true_eq]
    constructor <;> split <;> simp only [UInt8.reduceToNat] <;> omega
  simp only [next, hs, continues_tailByte, tailBits_tailByte, UInt8.lt_iff_toNat_lt,
    UInt8.le_iff_toNat_le, hb, UInt8.reduceToNat, hn]
  rw [if_neg (by omega), if_neg (by simp), if_neg (by simp), if_pos (by simp; omega),
    if_pos trivial, if_pos trivial, if_pos trivial]

/-! ## Bytes of ASCII -/

/-- Only a character that is encoded as one byte has a byte below 0x80. -/
theorem ascii_mem_char_iff {b : UInt8} (hb : b.toNat < 0x80) (c : Char) :
    b ∈ String.utf8EncodeChar c ↔ c.toNat = b.toNat := by
  have hv : c.val.toNat < 0x110000 := by
    rcases c.valid with h | h
    · exact Nat.lt_trans h (by decide)
    · exact h.2
  -- a byte of a longer encoding is no byte of ASCII
  have key : ∀ m, 0x80 ≤ m → m < 256 → b ≠ UInt8.ofNat m := by
    rintro m hm hlt rfl
    rw [toNat_byte hlt] at hb
    omega
  show b ∈ String.utf8EncodeChar c ↔ c.val.toNat = b.toNat
  -- one byte, or two to four that are all at least 0x80
  unfold String.utf8EncodeChar
  generalize c.val.toNat = n at hv
  dsimp only
  split
  case isTrue h1 =>
    rw [List.mem_singleton, ← UInt8.toNat_inj, toNat_byte (by omega)]
    exact eq_comm
  case isFalse h1 =>
    refine iff_of_false (fun h => ?_) (by omega)
    split at h
    case isTrue h2 =>
      rw [List.mem_cons, List.mem_singleton] at h
      rcases h with h | h <;> exact key _ (by omega) (by omega) h
    case isFalse h2 =>
      split at h
      case isTrue h3 =>
        rw [List.mem_cons, List.mem_cons, List.mem_singleton] at h
        rcases h with h | h | h <;> exact key _ (by omega) (by omega) h
      case isFalse h3 =>
        rw [List.mem_cons, List.mem_cons, List.mem_cons, List.mem_singleton] at h
        rcases h with h | h | h | h <;> exact key _ (by omega) (by omega) h

/-- A character of ASCII is one byte. -/
theorem char_bytes_of_ascii {c : Char} (h : c.toNat < 0x80) :
    String.utf8EncodeChar c = [UInt8.ofNat c.toNat] := by
  unfold String.utf8EncodeChar
  dsimp only
  split
  case isTrue => rfl
  case isFalse hlong =>
    have hle : c.val.toNat ≤ 0x7f := Nat.le_of_lt_succ h
    exact absurd hle hlong

/-! ## Whole texts -/

theorem decode_cons (b : UInt8) (r : List UInt8) :
    decode (b :: r) = (next b r).1 :: decode (next b r).2 := by rw [decode]

/-- The bytes of a character are read as that character, whatever follows. -/
theorem decode_char_append (c : Char) (rest : List UInt8) :
    decode (String.utf8EncodeChar c ++ rest) = c :: decode rest := by
  have hv : c.val.toNat < 0xd800 ∨ 0xdfff < c.val.toNat ∧ c.val.toNat < 0x110000 := c.valid
  have hc : Char.ofNat c.val.toNat = c := Char.ofNat_toNat c
  -- by the number of bytes that the character has
  unfold String.utf8EncodeChar
  generalize c.val.toNat = n at hv hc
  dsimp only
  split
  case isTrue h1 =>
    rw [List.singleton_append, decode_cons, next_one h1, hc]
  case isFalse h1 =>
    split
    case isTrue h2 =>
      show decode (_ :: tailByte n :: rest) = _
      rw [decode_cons, next_two (by omega) h2, hc]
    case isFalse h2 =>
      split
      case isTrue h3 =>
        show decode (_ :: tailByte (n / 64) :: tailByte n :: rest) = _
        rw [decode_cons, next_three (by omega) h3 (by omega), hc]
      case isFalse h3 =>
        show decode (_ :: tailByte (n / 4096) :: tailByte (n / 64) :: tailByte n :: rest) = _
        rw [decode_cons, next_four (by omega) (by omega), hc]

/-- The bytes of a text are those of its first character and of the others. -/
theorem encode_cons (c : Char) (s : List Char) :
    encode (c :: s) = String.utf8EncodeChar c ++ encode s := by
  simp only [encode, List.flatMap_cons]

/-- The bytes of two texts are those of the text that they make. -/
theorem encode_append (s t : List Char) : encode (s ++ t) = encode s ++ encode t :=
  List.flatMap_append

/-- The bytes of a text are read as the text. -/
theorem decode_encode (s : List Char) : decode (encode s) = s := by
  induction s with
  | nil => rw [encode, List.flatMap_nil, decode]
  | cons c s ih => rw [encode_cons, decode_char_append, ih]

/-- As a string, too, the bytes of a text are read as the text. -/
theorem text_encode (s : List Char) : text (encode s) = String.ofList s := by
  rw [text, decode_encode]

/-- What is read back from the bytes of a text has these very bytes. -/
theorem bytes_text_encode (s : List Char) : bytes (text (encode s)) = encode s := by
  rw [text_encode, bytes, String.toList_ofList]

end Turnpike.Text.Utf8
