/-
  Reading JSON texts.

  The grammar is the standard one, with nothing before or after the value but blanks.  A number
  with a point or an exponent, minus zero, and a whole number past the range of 64 bits are
  floating-point values; such a value is computed from the first digits that fit into 64 bits, by
  one multiplication or division with a power of ten.
-/
import Turnpike.Json.Value
import Turnpike.Text.Ascii

namespace Turnpike.Json

open Turnpike.Text Turnpike.Number

/-! ## Numbers -/

/-- The least number past those of 64 bits. -/
def wordLimit : Nat := 0x10000000000000000

/-- Appends digits to a number while it stays below the limit; the second part counts the digits
    left out. -/
def absorb (n : Nat) : List Char → Nat × Nat
  | [] => (n, 0)
  | c :: r =>
    let m := n * 10 + digitValue c
    if m < wordLimit then absorb m r else (n, r.length + 1)

/-- A natural number as a floating-point value. -/
def floatOfNat (n : Nat) : Float := Float.ofBits (UInt64.ofNat (ofQuotient n 1))

/-- A power of ten as a floating-point value. -/
def floatPower (e : Nat) : Float := Float.ofBits (UInt64.ofNat (ofDecimal 1 e))

/-- Divides by powers of ten, by at most the 308th at a time. -/
def scaleDown (f : Float) (e : Nat) : Nat → Float
  | 0 => f
  | fuel + 1 =>
    if e < 309 then f / floatPower e
    else if f == 0.0 then f
    else scaleDown (f / floatPower 308) (e - 308) fuel

/-- The floating-point value of a significand and a power of ten; none when it is too large. -/
def scaled? (significand : Nat) (exponent : Int) : Option Float :=
  let f := floatOfNat significand
  if exponent < 0 then some (scaleDown f exponent.natAbs (exponent.natAbs / 308 + 1))
  else if exponent.toNat < 309 then
    let g := f * floatPower exponent.toNat
    if g.isInf then none else some g
  else if significand = 0 then some f
  else none

/-- A floating-point number with a sign. -/
def signedFloat (negative : Bool) (f : Float) : Number :=
  .float (if negative then -f else f).toBits.toNat

/-- A number literal taken apart. -/
structure Literal where
  negative : Bool
  whole : List Char
  fraction : List Char
  exponent : Option Int

/-- The greatest exponent of ten that is told apart from all greater ones. -/
def exponentLimit : Int := 2147483647

/-- The number that a literal stands for, if it is in range. -/
def Literal.number? (l : Literal) : Option Number :=
  let (w, dropped) := absorb 0 l.whole
  if l.fraction = [] && l.exponent = none && dropped == 0 then
    if !l.negative then some (.nat w)
    else if 0 < w && w ≤ 0x8000000000000000 then some (.neg w)
    else some (signedFloat true (floatOfNat w))
  else
    let (m, left) := absorb w l.fraction
    let shift : Int := (dropped : Int) - ((l.fraction.length : Int) - left)
    let e := l.exponent.getD 0
    if exponentLimit < e then (if m = 0 then some (signedFloat l.negative 0.0) else none)
    else if e < -exponentLimit then some (signedFloat l.negative 0.0)
    else (scaled? m (shift + e)).map (signedFloat l.negative)

/-- The literal at the head of a text whose sign has been read, and what follows it. -/
def readLiteral (negative : Bool) (s : List Char) : Option (Literal × List Char) :=
  let whole := s.takeWhile Char.isDigit
  let r := s.dropWhile Char.isDigit
  if whole = [] || (whole.head? = some '0' && 1 < whole.length) then none
  else
    let fraction : Option (List Char × List Char) :=
      match r with
      | '.' :: r' =>
        if r'.takeWhile Char.isDigit = [] then none
        else some (r'.takeWhile Char.isDigit, r'.dropWhile Char.isDigit)
      | _ => some ([], r)
    match fraction with
    | none => none
    | some (fraction, r) =>
      match r with
      | e :: r' =>
        if e = 'e' || e = 'E' then
          let (minus, r'') := match r' with
            | '-' :: t => (true, t)
            | '+' :: t => (false, t)
            | t => (false, t)
          let ds := r''.takeWhile Char.isDigit
          if ds = [] then none
          else
            let n : Int := decimal ds
            some (⟨negative, whole, fraction, some (if minus then -n else n)⟩,
              r''.dropWhile Char.isDigit)
        else some (⟨negative, whole, fraction, none⟩, r)
      | [] => some (⟨negative, whole, fraction, none⟩, [])

/-! ## Strings -/

/-- A character of a string as it is written: a character, or one half of a surrogate pair. -/
inductive Unit16 where
  | char (c : Char)
  | half (n : Nat)

/-- What a letter behind a backslash stands for. -/
def unescape : Char → Option Char
  | '\x22' => some '\x22'
  | '\\' => some '\\'
  | '/' => some '/'
  | 'b' => some '\x08'
  | 'f' => some '\x0c'
  | 'n' => some '\n'
  | 'r' => some '\r'
  | 't' => some '\t'
  | _ => none

/-- A code unit as a character or as half a pair. -/
def unitOf (n : Nat) : Unit16 :=
  if 0xd800 ≤ n && n ≤ 0xdfff then .half n else .char (Char.ofNat n)

/-- The units of a string behind its opening quote, and what follows its closing one. -/
def readString : List Char → Option (List Unit16 × List Char)
  | [] => none
  | '\\' :: 'u' :: a :: b :: c :: d :: r =>
    if isHex a && isHex b && isHex c && isHex d then
      let n := ((hexValue a * 16 + hexValue b) * 16 + hexValue c) * 16 + hexValue d
      (readString r).map fun (us, r) => (unitOf n :: us, r)
    else none
  | '\\' :: c :: r =>
    match unescape c with
    | none => none
    | some d => (readString r).map fun (us, r) => (.char d :: us, r)
  | c :: r =>
    if c = '\x22' then some ([], r)
    else if c.toNat < 0x20 then none
    else (readString r).map fun (us, r) => (.char c :: us, r)

/-- Joins the halves of surrogate pairs; none when a half stands alone. -/
def joinPairs : List Unit16 → Option (List Char)
  | [] => some []
  | .char c :: r => (joinPairs r).map (c :: ·)
  | .half a :: .half b :: r =>
    if a < 0xdc00 && 0xdc00 ≤ b then
      (joinPairs r).map (Char.ofNat (0x10000 + (a - 0xd800) * 1024 + (b - 0xdc00)) :: ·)
    else none
  | .half _ :: _ => none

/-- The string that the units spell. -/
def spelled (us : List Unit16) : Option String := (joinPairs us).map String.ofList

/-! ## Values -/

/-- A blank between the parts of a JSON text. -/
def isBlank (c : Char) : Bool := c == ' ' || c == '\n' || c == '\t' || c == '\r'

/-- The text without the blanks at its start. -/
def skipBlanks (s : List Char) : List Char := s.dropWhile isBlank

mutual

/-- The value at the head of a text, and what follows it. -/
def readValue : Nat → List Char → Option (Tree × List Char)
  | 0, _ => none
  | fuel + 1, s =>
    match skipBlanks s with
    | 'n' :: 'u' :: 'l' :: 'l' :: r => some (.null, r)
    | 't' :: 'r' :: 'u' :: 'e' :: r => some (.bool true, r)
    | 'f' :: 'a' :: 'l' :: 's' :: 'e' :: r => some (.bool false, r)
    | '\x22' :: r => (readString r).map fun (us, r) => (.str (spelled us), r)
    | '-' :: r => (readLiteral true r).map fun (l, r) => (.num l.number?, r)
    | '[' :: r =>
      match skipBlanks r with
      | ']' :: r' => some (.arr [], r')
      | r' => (readItems fuel r').map fun (ts, r) => (.arr ts, r)
    | '\x7b' :: r =>
      match skipBlanks r with
      | '\x7d' :: r' => some (.obj [], r')
      | r' => (readFields fuel r').map fun (fs, r) => (.obj fs, r)
    | r => (readLiteral false r).map fun (l, r) => (.num l.number?, r)

/-- The items of an array from its first one on, and what follows its bracket. -/
def readItems : Nat → List Char → Option (List Tree × List Char)
  | 0, _ => none
  | fuel + 1, s =>
    match readValue fuel s with
    | none => none
    | some (t, r) =>
      match skipBlanks r with
      | ',' :: r' => (readItems fuel r').map fun (ts, r) => (t :: ts, r)
      | ']' :: r' => some ([t], r')
      | _ => none

/-- The fields of an object from its first one on, and what follows its brace. -/
def readFields : Nat → List Char → Option (List (Option String × Tree) × List Char)
  | 0, _ => none
  | fuel + 1, s =>
    match skipBlanks s with
    | '\x22' :: r =>
      match readString r with
      | none => none
      | some (us, r) =>
        match skipBlanks r with
        | ':' :: r =>
          match readValue fuel r with
          | none => none
          | some (t, r) =>
            match skipBlanks r with
            | ',' :: r' => (readFields fuel r').map fun (fs, r) => ((spelled us, t) :: fs, r)
            | '\x7d' :: r' => some ([(spelled us, t)], r')
            | _ => none
        | _ => none
    | _ => none

end

/-- What a text says, if it is one JSON value. -/
def Tree.parse? (s : String) : Option Tree :=
  match readValue (s.toList.length + 1) s.toList with
  | some (t, r) => if skipBlanks r = [] then some t else none
  | none => none

/-- The settled value that a text says. -/
def parse? (s : String) : Option Json := (Tree.parse? s).bind (Tree.settle? nestingLimit)

end Turnpike.Json
