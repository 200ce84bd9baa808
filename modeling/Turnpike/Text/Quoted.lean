/-
  Quoted text — a string between double quotes, with escapes for what would not show.

  Zero, tab, line feed and carriage return have letters of their own; the quote and the backslash
  take a backslash; every other character that `isShown` refuses is written as its number in
  hexadecimal.  The single quote stands for itself.
-/
import Turnpike.Text.Escaped

namespace Turnpike.Text.Quoted

/-- One hexadecimal digit. -/
def hexDigit (n : Nat) : Char := Char.ofNat (if n < 10 then 48 + n else 87 + n)

/-- A number in lower-case hexadecimal, without leading zeros. -/
def hex (n : Nat) : List Char :=
  if n < 16 then [hexDigit n] else hex (n / 16) ++ [hexDigit (n % 16)]
termination_by n

/-- One character inside the quotes. -/
def escape (c : Char) : List Char :=
  if c = '\x00' then ['\\', '0']
  else if c = '\t' then ['\\', 't']
  else if c = '\n' then ['\\', 'n']
  else if c = '\r' then ['\\', 'r']
  else if c = '\\' then ['\\', '\\']
  else if c = '\x22' then ['\\', '\x22']
  else if isShown c then [c]
  else ['\\', 'u', '\x7b'] ++ hex c.toNat ++ ['\x7d']

/-- The characters of the text, each escaped where it has to be. -/
def body (s : List Char) : List Char := s.flatMap escape

/-- The text between double quotes. -/
def quote (s : List Char) : List Char := '\x22' :: body s ++ ['\x22']

/-- The text of a string between double quotes. -/
def quoted (s : String) : String := String.ofList (quote s.toList)

example : quoted "a\x22b\n" = "\x22a\\\x22b\\n\x22" := by cbv
example : quoted "a\x1b" = "\x22a\\u\x7b1b\x7d\x22" := by cbv

end Turnpike.Text.Quoted
