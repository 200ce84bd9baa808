/-
  The fewest decimal digits that read back as the same value.

  The reals that round to a finite value form an interval around it, ends included exactly when the
  significand is even.  For one digit, two digits, and so on, the two neighbours of the value on
  that decimal grid are tried; the first grid with a neighbour inside the interval wins, and of two
  neighbours inside, the nearer; a `Tie` settles the rest.  Seventeen digits always suffice.

  A `Style` says how the digits are then laid out: from which powers of ten on an exponent is used,
  and whether a whole number keeps a point and a zero.
-/
import Turnpike.Number.Binary64

namespace Turnpike.Number

/-- A positive decimal: `digits` times ten to the power `exponent`. -/
structure Decimal where
  digits : Nat
  exponent : Int

/-- The interval of reals that round to a value, over a common denominator: all bounds are
    multiples of `1 / den`. -/
structure Interval where
  low : Nat
  mid : Nat
  high : Nat
  den : Nat
  closed : Bool

/-- The interval of a magnitude.  Just above a power of two the lower neighbour is nearer by
    half. -/
def Magnitude.interval (m : Magnitude) : Interval :=
  let narrow := m.significand == hiddenBit && m.exponent != -1074
  let low := if narrow then 4 * m.significand - 1 else 4 * m.significand - 2
  let scale := fun n => if m.exponent < 2 then n else n * Nat.pow 2 (m.exponent - 2).toNat
  { low := scale low
    mid := scale (4 * m.significand)
    high := scale (4 * m.significand + 2)
    den := if m.exponent < 2 then Nat.pow 2 (2 - m.exponent).toNat else 1
    closed := m.significand % 2 == 0 }

/-- Is `n / d` inside the interval? -/
def Interval.holds (i : Interval) (n d : Nat) : Bool :=
  let x := n * i.den
  if i.closed then i.low * d ≤ x && x ≤ i.high * d else i.low * d < x && x < i.high * d

/-- The number of decimal digits. -/
def digitCount (n : Nat) : Nat := (toString n).length

/-- The power of ten of the first digit of `n / d`: the greatest `e` with `10 ^ e ≤ n / d`. -/
def leadingExponent (n d : Nat) : Int :=
  if d ≤ n then (digitCount (n / d) : Int) - 1
  else
    let k := digitCount (d / n)
    if d ≤ n * Nat.pow 10 (k - 1) then -((k : Int) - 1) else -(k : Int)

/-- Which of two neighbours at the same distance is taken. -/
inductive Tie where
  | up
  | toEven
  deriving DecidableEq

/-- The better of the two neighbours of the value on the grid of step `10 ^ e`, if one is inside. -/
def Interval.onGrid? (i : Interval) (tie : Tie) (e : Int) : Option Decimal :=
  let up := if e < 0 then 1 else Nat.pow 10 e.toNat
  let down := if e < 0 then Nat.pow 10 (-e).toNat else 1
  let below := i.mid * down / (i.den * up)
  let inside := fun n => 0 < n && i.holds (n * up) down
  let away := fun (n : Nat) =>
    ((n * up * i.den : Int) - (i.mid * down : Int)).natAbs
  let nearer := away below < away (below + 1) ||
    (away below == away (below + 1) && tie == .toEven && below % 2 == 0)
  if inside below && (!inside (below + 1) || nearer) then some ⟨below, e⟩
  else if inside (below + 1) then some ⟨below + 1, e⟩
  else none

/-- The first grid, from the step of the first digit downwards, that has a point inside. -/
def Interval.firstGrid (i : Interval) (tie : Tie) (lead : Int) : Nat → Nat → Decimal
  | _, 0 => ⟨i.mid / i.den, 0⟩
  | k, fuel + 1 =>
    match i.onGrid? tie (lead - k) with
    | some d => d
    | none => i.firstGrid tie lead (k + 1) fuel

/-- The digits without zeros at the end, and the number of zeros that were there. -/
def dropZeros (n : Nat) : Nat × Nat :=
  if 0 < n ∧ n % 10 = 0 then let r := dropZeros (n / 10); (r.1, r.2 + 1) else (n, 0)
termination_by n
decreasing_by omega

/-- The shortest decimal of a magnitude other than zero, without zeros at the end. -/
def Magnitude.shortest (m : Magnitude) (tie : Tie) : Decimal :=
  let i := m.interval
  let d := i.firstGrid tie (leadingExponent i.mid i.den) 0 18
  let z := dropZeros d.digits
  ⟨z.1, d.exponent + z.2⟩

/-- How a value is laid out as text. -/
structure Style where
  /-- The least power of ten of the first digit that is written without an exponent. -/
  least : Option Int
  /-- The first power of ten of the first digit that is written with an exponent. -/
  limit : Option Int
  /-- Does a whole number keep a point and a zero? -/
  pointed : Bool
  /-- Which of two equally near decimals is written. -/
  tie : Tie
  nan : String
  infinity : String

/-- Zeros. -/
def zeros (n : Nat) : String := String.ofList (List.replicate n '0')

/-- The digits of a decimal with a point in place. -/
def Decimal.positional (d : Decimal) (pointed : Bool) : String :=
  let s := toString d.digits
  if 0 ≤ d.exponent then s ++ zeros d.exponent.toNat ++ (if pointed then ".0" else "")
  else
    let places := (-d.exponent).toNat
    if s.length ≤ places then "0." ++ zeros (places - s.length) ++ s
    else
      String.ofList (s.toList.take (s.length - places)) ++ "." ++
        String.ofList (s.toList.drop (s.length - places))

/-- The digits of a decimal with an exponent behind them. -/
def Decimal.scientific (d : Decimal) : String :=
  let s := (toString d.digits).toList
  let point := if s.length ≤ 1 then "" else "." ++ String.ofList (s.drop 1)
  String.ofList (s.take 1) ++ point ++ "e" ++ toString (d.exponent + s.length - 1)

/-- A value as text. -/
def Style.show (st : Style) (bits : Nat) : String :=
  let signed := fun (negative : Bool) (s : String) => if negative then "-" ++ s else s
  match read bits with
  | .nan => st.nan
  | .infinite negative => signed negative st.infinity
  | .finite negative m =>
    if m.significand = 0 then signed negative (if st.pointed then "0.0" else "0")
    else
      let d := m.shortest st.tie
      let lead := d.exponent + (digitCount d.digits : Int) - 1
      let positional := st.least.all (· ≤ lead) && st.limit.all (lead < ·)
      signed negative (if positional then d.positional st.pointed else d.scientific)

end Turnpike.Number
