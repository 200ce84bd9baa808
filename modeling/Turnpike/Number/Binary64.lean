/-
  Binary floating point of 64 bits, as its bits.

  Two directions.  `ofQuotient` rounds a quotient of natural numbers to the nearest value, ties to
  the even significand, so `ofDecimal` reads a decimal literal exactly.  `Magnitude` takes the bits
  apart again into a significand and a power of two.  All arithmetic is on natural numbers.
-/

namespace Turnpike.Number

/-- The weight of the first binary digit of a significand, which is not written. -/
def hiddenBit : Nat := 0x10000000000000

/-- The bits of positive infinity. -/
def infinityBits : Nat := 0x7ff * hiddenBit

/-- The nearest whole number to `n / d`, a half going to the even neighbour. -/
def roundQuotient (n d : Nat) : Nat :=
  let q := n / d
  let r := n % d
  if d < 2 * r || (2 * r == d && q % 2 == 1) then q + 1 else q

/-- The exponent of two at which `n / d` has 53 binary digits, or the least one there is. -/
def exponentOf (n d : Nat) : Int :=
  let guess : Int := (n.log2 : Int) - d.log2
  let fits := if guess < 0 then d ≤ n * Nat.pow 2 (-guess).toNat else d * Nat.pow 2 guess.toNat ≤ n
  max ((if fits then guess else guess - 1) - 52) (-1074)

/-- The bits of the value nearest to `n / d`; past the greatest finite value, infinity. -/
def ofQuotient (n d : Nat) : Nat :=
  if n = 0 then 0
  else
    let q := exponentOf n d
    let m := if q < 0 then roundQuotient (n * Nat.pow 2 (-q).toNat) d
      else roundQuotient n (d * Nat.pow 2 q.toNat)
    min ((q + 1074).toNat * hiddenBit + m) infinityBits

/-- The bits of the value nearest to `m` times ten to the power `e`. -/
def ofDecimal (m : Nat) (e : Int) : Nat :=
  if e < 0 then ofQuotient m (Nat.pow 10 (-e).toNat) else ofQuotient (m * Nat.pow 10 e.toNat) 1

/-- A finite value as a whole number of powers of two. -/
structure Magnitude where
  significand : Nat
  exponent : Int

/-- What bits stand for. -/
inductive Reading where
  | nan
  | infinite (negative : Bool)
  | finite (negative : Bool) (m : Magnitude)

/-- Takes bits apart. -/
def read (bits : Nat) : Reading :=
  let negative := bits / 0x8000000000000000 % 2 == 1
  let e : Nat := bits / hiddenBit % 2048
  let f : Nat := bits % hiddenBit
  if e = 2047 then (if f = 0 then .infinite negative else .nan)
  else if e = 0 then .finite negative ⟨f, -1074⟩
  else .finite negative ⟨hiddenBit + f, (e : Int) - 1075⟩

example : ofDecimal 1 (-1) = 0x3fb999999999999a ∧ ofDecimal 5 (-324) = 1 ∧
    ofDecimal 2 308 = infinityBits := by decide +kernel

end Turnpike.Number
