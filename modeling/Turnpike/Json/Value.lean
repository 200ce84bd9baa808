/-
  JSON values.

  A `Tree` is what a text says, before anyone asks for a shape: fields in order and possibly
  repeated, numbers that may be out of range, strings that may hold half a surrogate pair.  A
  `Json` is a settled value: every number and string is sound, and the fields of an object stand in
  the order of their names, each once.
-/
import Turnpike.Dictionary
import Turnpike.Number.Shortest

namespace Turnpike

/-- A JSON number: a natural number, a negative whole number (by its absolute value), or a binary
    floating-point value (by its bits). -/
inductive Json.Number where
  | nat (n : Nat)
  | neg (n : Nat)
  | float (bits : Nat)
  deriving DecidableEq, Repr

/-- A settled JSON value. -/
inductive Json where
  | null
  | bool (b : Bool)
  | num (n : Json.Number)
  | str (s : String)
  | arr (items : List Json)
  | obj (fields : List (String × Json))
  deriving Repr, Inhabited, BEq

/-- A JSON text as it is written. -/
inductive Json.Tree where
  | null
  | bool (b : Bool)
  | num (n : Option Json.Number)
  | str (s : Option String)
  | arr (items : List Json.Tree)
  | obj (fields : List (Option String × Json.Tree))
  deriving Inhabited

namespace Json

/-- An object of the given fields, of which the last one of each name counts. -/
def object (fields : List (String × Json)) : Json :=
  .obj (fields.foldl (fun acc (n, v) => Pairs.put n v acc) [])

/-- A natural number. -/
def ofNat (n : Nat) : Json := .num (.nat n)

/-- A whole number. -/
def ofInt (i : Int) : Json :=
  if i < 0 then .num (.neg i.natAbs) else .num (.nat i.toNat)

/-- Texts. -/
def ofTexts (ss : List String) : Json := .arr (ss.map .str)

/-- Pairs of texts, each as a list of two. -/
def ofPairs (ps : List (String × String)) : Json := .arr (ps.map fun (a, b) => .arr [.str a, .str b])

/-- A value that may be missing; null stands for a missing one. -/
def ofOption {α : Type} (f : α → Json) (a : Option α) : Json := (a.map f).getD .null

/-- The field of that name. -/
def field? (name : String) : Json → Option Json
  | .obj fields => (fields.find? (·.1 == name)).map (·.2)
  | _ => none

mutual

/-- The value as a text would write it. -/
def tree : Json → Tree
  | .null => .null
  | .bool b => .bool b
  | .num n => .num (some n)
  | .str s => .str (some s)
  | .arr items => .arr (treeItems items)
  | .obj fields => .obj (treeFields fields)

/-- The items of an array as a text would write them. -/
def treeItems : List Json → List Tree
  | [] => []
  | v :: r => tree v :: treeItems r

/-- The fields of an object as a text would write them. -/
def treeFields : List (String × Json) → List (Option String × Tree)
  | [] => []
  | (n, v) :: r => (some n, tree v) :: treeFields r

end

mutual

/-- The settled value of a tree, if arrays and objects in it are nested at most `depth` deep and all
    its numbers and strings are sound. -/
def Tree.settle? (depth : Nat) : Tree → Option Json
  | .null => some .null
  | .bool b => some (.bool b)
  | .num n => n.map .num
  | .str s => s.map .str
  | .arr items =>
    match depth with
    | 0 => none
    | d + 1 => (settleItems? d items).map .arr
  | .obj fields =>
    match depth with
    | 0 => none
    | d + 1 => (settleFields? d fields).map Json.object

/-- The settled values of the items of an array. -/
def Tree.settleItems? (depth : Nat) : List Tree → Option (List Json)
  | [] => some []
  | t :: r =>
    match t.settle? depth, settleItems? depth r with
    | some v, some vs => some (v :: vs)
    | _, _ => none

/-- The settled values of the fields of an object, in the order of the text. -/
def Tree.settleFields? (depth : Nat) : List (Option String × Tree) → Option (List (String × Json))
  | [] => some []
  | (n, t) :: r =>
    match n, t.settle? depth, settleFields? depth r with
    | some n, some v, some vs => some ((n, v) :: vs)
    | _, _, _ => none

end

/-- How deep arrays and objects may be nested in one document. -/
def nestingLimit : Nat := 127

end Json

end Turnpike
