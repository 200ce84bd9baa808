/-
  UTF-8 — text as bytes and bytes as text.

  Request paths are matched byte by byte, so texts are encoded before they are compared.  Reading
  back never fails: each longest run of bytes that begins a character and does not finish one, and
  each byte that begins none, is read as U+FFFD.
-/

namespace Turnpike.Text.Utf8

/-- The bytes of a text. -/
def encode (s : List Char) : List UInt8 := s.flatMap String.utf8EncodeChar

/-- The bytes of a string. -/
def bytes (s : String) : List UInt8 := encode s.toList

/-- The number of bytes of a string. -/
def size (s : String) : Nat := s.utf8ByteSize

/-- The character that stands for bytes which are none. -/
def replacement : Char := '\ufffd'

/-- Is the byte in the range of those that continue a character? -/
def continues (b : UInt8) : Bool := 0x80 ≤ b && b ≤ 0xbf

/-- The six bits that a continuing byte carries. -/
def tailBits (b : UInt8) : Nat := b.toNat % 64

/-- The bytes that may follow the first of three: shorter forms and surrogates are left out. -/
def secondOfThree (first b : UInt8) : Bool :=
  (if first = 0xe0 then 0xa0 else 0x80) ≤ b && b ≤ (if first = 0xed then 0x9f else 0xbf)

/-- The bytes that may follow the first of four: shorter forms and what lies past U+10FFFF are
    left out. -/
def secondOfFour (first b : UInt8) : Bool :=
  (if first = 0xf0 then 0x90 else 0x80) ≤ b && b ≤ (if first = 0xf4 then 0x8f else 0xbf)

/-- The first character of `first :: rest` and the bytes after it. -/
def next (first : UInt8) (rest : List UInt8) : Char × List UInt8 :=
  if first < 0x80 then (Char.ofNat first.toNat, rest)
  else if 0xc2 ≤ first && first ≤ 0xdf then
    match rest with
    | b :: r =>
      if continues b then (Char.ofNat (first.toNat % 32 * 64 + tailBits b), r)
      else (replacement, rest)
    | [] => (replacement, rest)
  else if 0xe0 ≤ first && first ≤ 0xef then
    match rest with
    | b :: r =>
      if secondOfThree first b then
        match r with
        | c :: r' =>
          if continues c then
            (Char.ofNat (first.toNat % 16 * 4096 + tailBits b * 64 + tailBits c), r')
          else (replacement, r)
        | [] => (replacement, r)
      else (replacement, rest)
    | [] => (replacement, rest)
  else if 0xf0 ≤ first && first ≤ 0xf4 then
    match rest with
    | b :: r =>
      if secondOfFour first b then
        match r with
        | c :: r' =>
          if continues c then
            match r' with
            | d :: r'' =>
              if continues d then
                (Char.ofNat (first.toNat % 8 * 262144 + tailBits b * 4096 + tailBits c * 64
                  + tailBits d), r'')
              else (replacement, r')
            | [] => (replacement, r')
          else (replacement, r)
        | [] => (replacement, r)
      else (replacement, rest)
    | [] => (replacement, rest)
  else (replacement, rest)

/-- A step never lengthens what is left. -/
theorem next_length (first : UInt8) (rest : List UInt8) :
    (next first rest).2.length ≤ rest.length := by
  unfold next
  repeat' split
  all_goals simp only [List.length_cons]; omega

/-- The text that the bytes spell. -/
def decode : List UInt8 → List Char
  | [] => []
  | b :: r => (next b r).1 :: decode (next b r).2
termination_by s => s.length
decreasing_by have := next_length b r; simp only [List.length_cons]; omega

/-- The string that the bytes spell. -/
def text (s : List UInt8) : String := String.ofList (decode s)

example : text [0x68, 0xc3, 0xa9, 0xe2, 0x82, 0xac, 0xf0, 0x9f, 0x98, 0x80] = "hé€😀" := by cbv
example : text [0xe2, 0x82, 0x41, 0xff] = "\ufffdA\ufffd" := by cbv

end Turnpike.Text.Utf8
