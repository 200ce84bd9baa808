/-
  Reading TOML documents.

  A document is a sequence of lines: headers, which say where the following keys belong, and keys
  with their values.  Values are strings, numbers, truth values, dates, arrays and tables on one
  line.  What is read is a tree, in which a date stands as an object.
-/
import Turnpike.Toml.Number
import Turnpike.Toml.Quoted
import Turnpike.Toml.Table

namespace Turnpike.Toml

open Turnpike.Text Turnpike.Json

/-! ## Keys -/

/-- Arrays and tables must be nested less deep than this, and keys have fewer parts. -/
def depthLimit : Nat := 80

/-- A character of a key without quotes. -/
def isBare (c : Char) : Bool := c.isAlphanum || c == '_' || c == '-'

/-- One part of a key, and what follows it. -/
def readPart (s : List Char) : Option (String × List Char) :=
  match s with
  | '\x22' :: r => readString '\x22' r
  | '\x27' :: r => readString '\x27' r
  | _ =>
    let name := s.takeWhile isBare
    if name = [] then none else some (String.ofList name, s.dropWhile isBare)

/-- The parts of a key with dots between them, with blanks around each, and what follows them. -/
def readParts : Nat → List Char → Option (List String × List Char)
  | 0, _ => none
  | fuel + 1, s => do
    let (part, r) ← readPart (skipBlanks s)
    match skipBlanks r with
    | '.' :: r =>
      let (parts, r) ← readParts fuel r
      some (part :: parts, r)
    | r => some ([part], r)

/-- A key: the path to its table and its last part, and what follows it. -/
def readKey (s : List Char) : Option (List String × String × List Char) := do
  let (parts, r) ← readParts s.length s
  let key ← parts.getLast?
  if depthLimit ≤ parts.length then none else some (parts.dropLast, key, r)

/-! ## Values -/

/-- A date as a tree. -/
def dateTree (s : List Char) : Tree := .obj [(some "date", .str (some (String.ofList s)))]

/-- The number, date or time of day at the start of a text, and what follows it. -/
def readFigure (s : List Char) : Option (Tree × List Char) :=
  if isDateAhead s then (skipDate s).map fun r => (dateTree (s.take (s.length - r.length)), r)
  else (readNumber s).map fun (n, r) => (.num (some n), r)

mutual

/-- The value at the start of a text, nested so deep already, and what follows it. -/
def readValue : Nat → Nat → List Char → Option (Tree × List Char)
  | 0, _, _ => none
  | fuel + 1, depth, s =>
    match s with
    | '\x22' :: r => (readText '\x22' r).map fun (t, r) => (.str (some t), r)
    | '\x27' :: r => (readText '\x27' r).map fun (t, r) => (.str (some t), r)
    | 't' :: 'r' :: 'u' :: 'e' :: r => some (.bool true, r)
    | 'f' :: 'a' :: 'l' :: 's' :: 'e' :: r => some (.bool false, r)
    | '[' :: r =>
      if depthLimit ≤ depth + 1 then none
      else (readItems fuel (depth + 1) r).map fun (ts, r) => (.arr ts, r)
    | '\x7b' :: r =>
      if depthLimit ≤ depth + 1 then none
      else
        match skipBlanks r with
        | '\x7d' :: r => some (.obj [], r)
        | r => (readPairs fuel (depth + 1) (.table .header []) r).map fun (i, r) => (i.tree, r)
    | _ => readFigure s

/-- The items of an array behind its bracket or behind a comma, and what follows the array. -/
def readItems : Nat → Nat → List Char → Option (List Tree × List Char)
  | 0, _, _ => none
  | fuel + 1, depth, s =>
    match skipSpace s with
    | ']' :: r => some ([], r)
    | r => do
      let (t, r) ← readValue fuel depth r
      match skipSpace r with
      | ',' :: r =>
        let (ts, r) ← readItems fuel depth r
        some (t :: ts, r)
      | ']' :: r => some ([t], r)
      | _ => none

/-- A table on one line, from a key on, when the keys before it are in place; and what follows the
    table. -/
def readPairs : Nat → Nat → Item → List Char → Option (Item × List Char)
  | 0, _, _, _ => none
  | fuel + 1, depth, table, s => do
    let (path, key, r) ← readKey s
    match r with
    | '=' :: r =>
      let (t, r) ← readValue fuel depth (skipBlanks r)
      let table ← assign path key t table
      match skipBlanks r with
      | ',' :: r => readPairs fuel depth table r
      | '\x7d' :: r => some (table, r)
      | _ => none
    | _ => none

end

/-! ## Documents -/

/-- A document, as far as it is read: the path of the table that keys belong to, and the whole. -/
structure Draft where
  here : List String := []
  root : Item := .table .header []

/-- Takes in a header, behind its brackets, with what it begins and the brackets that close it. -/
def Draft.header (d : Draft) (begin_ : List String → String → Item → Option Item)
    (close : List Char) (s : List Char) : Option (Draft × List Char) := do
  let (path, key, r) ← readKey s
  if r.take close.length = close then
    let root ← begin_ path key d.root
    let r ← lineEnd? (r.drop close.length)
    some ({ here := path ++ [key], root := root }, r)
  else none

/-- Takes in a key with its value. -/
def Draft.keyValue (d : Draft) (s : List Char) : Option (Draft × List Char) := do
  let (path, key, r) ← readKey s
  match r with
  | '=' :: r =>
    let (t, r) ← readValue s.length 0 (skipBlanks r)
    let root ← assignAt d.here path key t d.root
    let r ← lineEnd? r
    some ({ d with root := root }, r)
  | _ => none

/-- Takes in all lines. -/
def Draft.lines (d : Draft) : Nat → List Char → Option Draft
  | 0, _ => none
  | fuel + 1, s =>
    match skipBlanks s with
    | [] => some d
    | '[' :: '[' :: r => (d.header beginItem [']', ']'] r).bind fun (d, r) => d.lines fuel r
    | '[' :: r => (d.header beginTable [']'] r).bind fun (d, r) => d.lines fuel r
    | r =>
      match lineEnd? r with
      | some r => d.lines fuel r
      | none => (d.keyValue r).bind fun (d, r) => d.lines fuel r

/-- The text without a mark of byte order at its start. -/
def skipMark : List Char → List Char
  | '\ufeff' :: r => r
  | s => s

/-- The tree that a document states. -/
def parse? (s : String) : Option Tree :=
  let s := skipMark s.toList
  (Draft.lines {} (s.length + 1) s).map (·.root.tree)

end Turnpike.Toml
