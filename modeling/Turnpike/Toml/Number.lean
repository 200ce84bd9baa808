/-
  TOML numbers and dates.

  A whole number fits into 64 bits with a sign; it may be written with a base of sixteen, eight or
  two.  Between two digits an underscore may stand.  A floating-point number has a fraction, an
  exponent or both, and must not be past the greatest value.  Of a date or a time of day only its
  bounds are checked.
-/
import Turnpike.Json.Value
import Turnpike.Number.Binary64
import Turnpike.Text.Ascii

namespace Turnpike.Toml

open Turnpike.Text Turnpike.Json Turnpike.Number

/-! ## Digits -/

/-- Further digits, with underscores between them, and what follows. -/
def moreDigits (isDigit : Char → Bool) : List Char → List Char × List Char
  | [] => ([], [])
  | [c] => if isDigit c then ([c], []) else ([], [c])
  | c :: d :: r =>
    if isDigit c then
      let (ds, r) := moreDigits isDigit (d :: r)
      (c :: ds, r)
    else if c = '_' && isDigit d then moreDigits isDigit (d :: r)
    else ([], c :: d :: r)

/-- One digit or more, with underscores between them, and what follows. -/
def digits? (isDigit : Char → Bool) : List Char → Option (List Char × List Char)
  | [] => none
  | c :: r => if isDigit c then some (moreDigits isDigit (c :: r)) else none

/-- A number in a base up to sixteen. -/
def inBase (base : Nat) (ds : List Char) : Nat := ds.foldl (fun n d => n * base + hexValue d) 0

/-- A digit of a base. -/
def isDigitOf (base : Nat) (c : Char) : Bool := isHex c && hexValue c < base

/-- A sign at the start of a text: is it a minus? -/
def readSign : List Char → Bool × List Char
  | '-' :: r => (true, r)
  | '+' :: r => (false, r)
  | s => (false, s)

/-! ## Numbers -/

/-- A whole number of 64 bits with a sign. -/
def wholeNumber? (negative : Bool) (n : Nat) : Option Number :=
  if !negative && n < 0x8000000000000000 then some (.nat n)
  else if negative && n ≤ 0x8000000000000000 then some (if n = 0 then .nat 0 else .neg n)
  else none

/-- The bits of a number in decimal digits with an exponent. -/
def floatBits (ds : List Char) (exponent : Int) : Nat :=
  let n := decimal ds
  if n = 0 || exponent + ds.length < -400 then 0
  else if 400 < exponent + ds.length && 400 < exponent + (toString n).length then infinityBits
  else ofDecimal n exponent

/-- The bit of a minus sign. -/
def signBit (negative : Bool) : Nat := if negative then 0x8000000000000000 else 0

/-- The number that the parts of a floating-point number state.  Only the greatest one is checked:
    far below the least one lies minus infinity. -/
def floatNumber? (negative : Bool) (whole fraction : List Char) (exponent : Int) : Option Number :=
  let bits := floatBits (whole ++ fraction) (exponent - fraction.length)
  if bits = infinityBits && !negative then none else some (.float (signBit negative + bits))

/-- The fraction behind a whole part, if there is one. -/
def readFraction : List Char → Option (List Char × List Char)
  | '.' :: r => digits? Char.isDigit r
  | s => some ([], s)

/-- The exponent behind a number, if there is one. -/
def readExponent (s : List Char) : Option (Option Int × List Char) :=
  match s with
  | e :: r =>
    if e = 'e' || e = 'E' then do
      let (minus, r) := readSign r
      let (ds, r) ← digits? Char.isDigit r
      let n : Int := decimal ds
      some (some (if minus then -n else n), r)
    else some (none, s)
  | [] => some (none, [])

/-- The decimal number behind a sign, and what follows it. -/
def readDecimal (negative : Bool) (s : List Char) : Option (Number × List Char) := do
  let (whole, r) ← match s with
    | '0' :: r => some (['0'], r)
    | _ => digits? Char.isDigit s
  let (fraction, r) ← readFraction r
  let (exponent, r) ← readExponent r
  let n ← if fraction = [] && exponent.isNone then wholeNumber? negative (decimal whole)
    else floatNumber? negative whole fraction (exponent.getD 0)
  some (n, r)

/-- The whole number of a base behind its mark, and what follows it. -/
def readBased (base : Nat) (s : List Char) : Option (Number × List Char) := do
  let (ds, r) ← digits? (isDigitOf base) s
  let n ← wholeNumber? false (inBase base ds)
  some (n, r)

/-- The bits of a value that is no number. -/
def nanBits : Nat := 0x7ff8000000000000

/-- The number at the start of a text, and what follows it. -/
def readNumber (s : List Char) : Option (Number × List Char) :=
  match s with
  | '0' :: 'x' :: r => readBased 16 r
  | '0' :: 'o' :: r => readBased 8 r
  | '0' :: 'b' :: r => readBased 2 r
  | _ =>
    match readSign s with
    | (negative, 'i' :: 'n' :: 'f' :: r) => some (.float (signBit negative + infinityBits), r)
    | (negative, 'n' :: 'a' :: 'n' :: r) => some (.float (signBit negative + nanBits), r)
    | (negative, r) => readDecimal negative r

/-! ## Dates -/

/-- A number of so many digits within bounds, and what follows it. -/
def readFixed (width least greatest : Nat) (s : List Char) : Option (Nat × List Char) :=
  let ds := s.take width
  let n := decimal ds
  if ds.length = width && ds.all Char.isDigit && least ≤ n && n ≤ greatest then
    some (n, s.drop width)
  else none

/-- The text behind a character. -/
def expect (c : Char) : List Char → Option (List Char)
  | d :: r => if d = c then some r else none
  | [] => none

/-- The number of days of a month. -/
def daysOf (year month : Nat) : Nat :=
  if month = 2 then
    if year % 4 = 0 && (year % 100 ≠ 0 || year % 400 = 0) then 29 else 28
  else if month ∈ [4, 6, 9, 11] then 30
  else 31

/-- The text behind a day at its start. -/
def skipDay (s : List Char) : Option (List Char) := do
  let (year, r) ← readFixed 4 0 9999 s
  let r ← expect '-' r
  let (month, r) ← readFixed 2 1 12 r
  let r ← expect '-' r
  let (_, r) ← readFixed 2 1 (daysOf year month) r
  some r

/-- The text behind hours and minutes at its start. -/
def skipMinutes (s : List Char) : Option (List Char) := do
  let (_, r) ← readFixed 2 0 23 s
  let r ← expect ':' r
  let (_, r) ← readFixed 2 0 59 r
  some r

/-- The text behind a time of day at its start. -/
def skipClock (s : List Char) : Option (List Char) := do
  let r ← skipMinutes s
  let r ← expect ':' r
  let (_, r) ← readFixed 2 0 60 r
  match r with
  | '.' :: r => if (r.head?.any Char.isDigit) then some (r.dropWhile Char.isDigit) else none
  | _ => some r

/-- The text behind a distance from universal time, if there is one. -/
def skipZone (s : List Char) : Option (List Char) :=
  match s with
  | 'Z' :: r | 'z' :: r => some r
  | '+' :: r | '-' :: r => skipMinutes r
  | _ => some s

/-- Does a time of day follow the mark between it and a day? -/
def isClockAhead : List Char → Bool
  | mark :: h :: m :: c :: _ =>
    (mark == 'T' || mark == 't' || mark == ' ') && h.isDigit && m.isDigit && c == ':'
  | _ => false

/-- The text behind a day, a time of day or both. -/
def skipDate (s : List Char) : Option (List Char) :=
  match skipDay s with
  | some r => if isClockAhead r then (skipClock (r.drop 1)).bind skipZone else some r
  | none => skipClock s

/-- Does a text start with a day or a time of day, right or wrong? -/
def isDateAhead (s : List Char) : Bool :=
  let ahead (width : Nat) (mark : Char) :=
    (s.takeWhile Char.isDigit).length == width && (s.drop width).head? == some mark
  ahead 4 '-' || ahead 2 ':'

end Turnpike.Toml
