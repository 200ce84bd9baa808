/-
  TOML texts — blanks, comments and quoted strings.

  A basic string stands in double quotes and knows escapes, a literal string stands in single
  quotes and knows none.  Three quotes in place of one open a string of several lines: a line break
  right behind them does not count, and up to two quotes may stand before the closing ones.  A break
  between lines is a line feed, or a carriage return with a line feed, which counts as a line feed.
-/
import Turnpike.Text.Ascii

namespace Turnpike.Toml

open Turnpike.Text

/-! ## Between the parts -/

/-- A blank inside a line. -/
def isBlank (c : Char) : Bool := c == ' ' || c == '\t'

/-- The text without the blanks at its start. -/
def skipBlanks (s : List Char) : List Char := s.dropWhile isBlank

/-- A character that may stand in a comment and, quotes and backslashes aside, in a string. -/
def isPlain (c : Char) : Bool := c == '\t' || (' ' ≤ c && c ≠ '\x7f')

/-- The text behind a break at its start. -/
def lineBreak? : List Char → Option (List Char)
  | '\n' :: r => some r
  | '\r' :: '\n' :: r => some r
  | _ => none

/-- The text behind a comment at its start, if there is one. -/
def skipComment : List Char → List Char
  | '#' :: r => r.dropWhile isPlain
  | s => s

/-- The text behind the end of a line, before which only blanks and a comment may stand. -/
def lineEnd? (s : List Char) : Option (List Char) :=
  match skipComment (skipBlanks s) with
  | [] => some []
  | r => lineBreak? r

/-- The text without the blanks, breaks and comments at its start, of which there are at most so
    many. -/
def skipLines : Nat → List Char → List Char
  | 0, s => s
  | fuel + 1, s =>
    let r := skipComment (skipBlanks s)
    match lineBreak? r with
    | some r => skipLines fuel r
    | none => r

/-- The text without the blanks, breaks and comments at its start. -/
def skipSpace (s : List Char) : List Char := skipLines s.length s

/-! ## Escapes -/

/-- The number that hexadecimal digits spell. -/
def hexNumber (ds : List Char) : Nat := ds.foldl (fun n d => n * 16 + hexValue d) 0

/-- The character whose number is spelled by so many hexadecimal digits, and what follows them. -/
def readCode (width : Nat) (s : List Char) : Option (Char × List Char) :=
  let ds := s.take width
  let n := hexNumber ds
  if ds.length = width && ds.all isHex && (n < 0xd800 || (0xdfff < n && n < 0x110000)) then
    some (Char.ofNat n, s.drop width)
  else none

/-- The character that an escape stands for, behind its backslash, and what follows it. -/
def readEscape : List Char → Option (Char × List Char)
  | 'b' :: r => some ('\x08', r)
  | 't' :: r => some ('\t', r)
  | 'n' :: r => some ('\n', r)
  | 'f' :: r => some ('\x0c', r)
  | 'r' :: r => some ('\r', r)
  | '\x22' :: r => some ('\x22', r)
  | '\\' :: r => some ('\\', r)
  | 'u' :: r => readCode 4 r
  | 'U' :: r => readCode 8 r
  | _ => none

/-- The text behind blanks and breaks, of which one at least is a break, as they may follow a
    backslash at the end of a line. -/
def continued? (s : List Char) : Option (List Char) :=
  (lineBreak? (skipBlanks s)).map fun r => skipBreaks r.length r
where
  skipBreaks : Nat → List Char → List Char
    | 0, s => s
    | fuel + 1, s =>
      match lineBreak? (skipBlanks s) with
      | some r => skipBreaks fuel r
      | none => skipBlanks s

/-! ## Strings -/

/-- The quotes at the start of a text, and what follows them. -/
def splitQuotes (quote : Char) (s : List Char) : List Char × List Char :=
  (s.takeWhile (· == quote), s.dropWhile (· == quote))

/-- The rest of a string on one line, behind the quote that opens it, and what follows the quote
    that closes it. -/
def readLine (quote : Char) (escapes : Bool) : Nat → List Char → Option (List Char × List Char)
  | 0, _ | _, [] => none
  | fuel + 1, c :: r =>
    if c = quote then some ([], r)
    else if c = '\\' && escapes then do
      let (d, r) ← readEscape r
      let (cs, r) ← readLine quote escapes fuel r
      some (d :: cs, r)
    else if isPlain c then do
      let (cs, r) ← readLine quote escapes fuel r
      some (c :: cs, r)
    else none

/-- The rest of a string of several lines, and what follows the quotes that close it. -/
def readBlock (quote : Char) (escapes : Bool) : Nat → List Char → Option (List Char × List Char)
  | 0, _ | _, [] => none
  | fuel + 1, c :: r =>
    if c = quote then
      let (qs, r) := splitQuotes quote (c :: r)
      if qs.length < 3 then do
        let (cs, r) ← readBlock quote escapes fuel r
        some (qs ++ cs, r)
      else if qs.length < 6 then some (qs.drop 3, r)
      else none
    else if c = '\\' && escapes then
      match continued? r with
      | some r => readBlock quote escapes fuel r
      | none => do
        let (d, r) ← readEscape r
        let (cs, r) ← readBlock quote escapes fuel r
        some (d :: cs, r)
    else
      match lineBreak? (c :: r) with
      | some r => do
        let (cs, r) ← readBlock quote escapes fuel r
        some ('\n' :: cs, r)
      | none =>
        if isPlain c then do
          let (cs, r) ← readBlock quote escapes fuel r
          some (c :: cs, r)
        else none

/-- Does a backslash mean something between these quotes? -/
def knowsEscapes (quote : Char) : Bool := quote == '\x22'

/-- The string behind the quote that opens it, when it stands on one line. -/
def readString (quote : Char) (s : List Char) : Option (String × List Char) :=
  (readLine quote (knowsEscapes quote) s.length s).map fun (cs, r) => (String.ofList cs, r)

/-- The string behind the quote that opens it. -/
def readText (quote : Char) (s : List Char) : Option (String × List Char) :=
  match splitQuotes quote s with
  | (_ :: _ :: _, _) =>
    let body := s.drop 2
    let body := (lineBreak? body).getD body
    (readBlock quote (knowsEscapes quote) body.length body).map fun (cs, r) =>
      (String.ofList cs, r)
  | _ => readString quote s

end Turnpike.Toml
