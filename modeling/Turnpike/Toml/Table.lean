/-
  TOML tables while a document is read.

  A table can come into being in three ways, and what may be added to it later depends on it: under
  a header of its own, by the header of a table below it, or by a key with dots.  A table is defined
  once, and a key is given a value once.
-/
import Turnpike.Json.Value

namespace Turnpike.Toml

open Turnpike.Json

/-- How a table came into being. -/
inductive Origin where
  | header
  | below
  | dotted
  deriving DecidableEq, Repr

/-- What stands under a key. -/
inductive Item where
  | value (t : Tree)
  | table (origin : Origin) (fields : List (String × Item))
  /-- Tables that are the items of an array, each under a header of its own. -/
  | tables (items : List Item)

/-- The fields of a table. -/
abbrev Fields := List (String × Item)

/-! ## As a tree -/

mutual

/-- An item as a tree. -/
def Item.tree : Item → Tree
  | .value t => t
  | .table _ fields => .obj (fieldTrees fields)
  | .tables items => .arr (itemTrees items)

/-- Items as trees. -/
def itemTrees : List Item → List Tree
  | [] => []
  | i :: r => i.tree :: itemTrees r

/-- Fields as trees. -/
def fieldTrees : List (String × Item) → List (Option String × Tree)
  | [] => []
  | (k, i) :: r => (some k, i.tree) :: fieldTrees r

end

/-! ## Paths -/

/-- A table that an item stands for, and the item again when its fields are replaced.  An array of
    tables stands for its last one. -/
def Item.table? : Item → Option (Origin × Fields × (Fields → Item))
  | .value _ => none
  | .table origin fields => some (origin, fields, .table origin)
  | .tables items =>
    match items.getLast? with
    | some (.table origin fields) =>
      some (origin, fields, fun fields => .tables (items.dropLast ++ [.table origin fields]))
    | _ => none

/-- Is the item a table that no key with dots may reach into? -/
def Item.isDefined : Item → Bool
  | .table .header _ => true
  | _ => false

/-- Changes the fields of the table at the end of a path.  Tables on the way that do not exist yet
    come into being. -/
def Item.alter (dotted : Bool) (f : Origin → Fields → Option Fields) :
    List String → Item → Option Item
  | [], item => do
    let (origin, fields, back) ← item.table?
    (f origin fields).map back
  | key :: path, item => do
    let (_, fields, back) ← item.table?
    let child := (Pairs.find? key fields).getD (.table (if dotted then .dotted else .below) [])
    if dotted && child.isDefined then none
    else
      let child ← child.alter dotted f path
      some (back (Pairs.put key child fields))

/-- Gives a key a value, unless it has one. -/
def define (key : String) (value : Tree) (fields : Fields) : Option Fields :=
  if (Pairs.find? key fields).isSome then none else some (Pairs.put key (.value value) fields)

/-- Gives a key with dots a value in a table. -/
def assign (path : List String) (key : String) (value : Tree) (item : Item) : Option Item :=
  item.alter true (fun origin fields =>
    if (origin == .dotted) == path.isEmpty then none else define key value fields) path

/-! ## Headers -/

/-- Begins a table under a header. -/
def beginTable (path : List String) (key : String) (root : Item) : Option Item :=
  root.alter false (fun _ fields =>
    match Pairs.find? key fields with
    | none => some (Pairs.put key (.table .header []) fields)
    | some (.table .below children) => some (Pairs.put key (.table .header children) fields)
    | some _ => none) path

/-- Begins one more table of an array under a header. -/
def beginItem (path : List String) (key : String) (root : Item) : Option Item :=
  root.alter false (fun _ fields =>
    match Pairs.find? key fields with
    | none => some (Pairs.put key (.tables [.table .header []]) fields)
    | some (.tables items) => some (Pairs.put key (.tables (items ++ [.table .header []])) fields)
    | some _ => none) path

/-- Gives a key with dots a value in the table at the end of a path. -/
def assignAt (here : List String) (path : List String) (key : String) (value : Tree)
    (root : Item) : Option Item :=
  root.alter false (fun origin fields => do
    let item ← assign path key value (.table origin fields)
    let (_, fields, _) ← item.table?
    some fields) here

end Turnpike.Toml
