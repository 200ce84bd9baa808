/-
  Writing JSON texts — the compact form, without blanks, fields in the order of their names.

  Control characters are escaped, by a letter where there is one; everything else stands for
  itself.  Floating-point values have the fewest digits that read back, with a point and at least
  one place, or with an exponent below 1e-5 and from 1e16 on.
-/
import Turnpike.Json.Value
import Turnpike.Text.Quoted

namespace Turnpike.Json

open Turnpike.Text Turnpike.Number

/-- How floating-point values are written.  Those that are not finite have no written form but
    null. -/
def floatStyle : Style :=
  { least := some (-5), limit := some 16, pointed := true, tie := .toEven, nan := "null",
    infinity := "null" }

/-- One character inside a string. -/
def escapeChar (c : Char) : List Char :=
  if c = '\x22' then ['\\', '\x22']
  else if c = '\\' then ['\\', '\\']
  else if c = '\x08' then ['\\', 'b']
  else if c = '\x0c' then ['\\', 'f']
  else if c = '\n' then ['\\', 'n']
  else if c = '\r' then ['\\', 'r']
  else if c = '\t' then ['\\', 't']
  else if c.toNat < 0x20 then
    ['\\', 'u', '0', '0', Quoted.hexDigit (c.toNat / 16), Quoted.hexDigit (c.toNat % 16)]
  else [c]

/-- A string between quotes. -/
def stringText (s : String) : String :=
  String.ofList ('\x22' :: s.toList.flatMap escapeChar ++ ['\x22'])

/-- A number. -/
def Number.text : Number → String
  | .nat n => toString n
  | .neg n => "-" ++ toString n
  | .float bits => floatStyle.show bits

mutual

/-- The text of a value. -/
def text : Json → String
  | .null => "null"
  | .bool b => if b then "true" else "false"
  | .num n => n.text
  | .str s => stringText s
  | .arr items => "[" ++ ",".intercalate (itemTexts items) ++ "]"
  | .obj fields => "\x7b" ++ ",".intercalate (fieldTexts fields) ++ "\x7d"

/-- The texts of the items of an array. -/
def itemTexts : List Json → List String
  | [] => []
  | v :: r => text v :: itemTexts r

/-- The texts of the fields of an object. -/
def fieldTexts : List (String × Json) → List String
  | [] => []
  | (n, v) :: r => (stringText n ++ ":" ++ text v) :: fieldTexts r

end

end Turnpike.Json
