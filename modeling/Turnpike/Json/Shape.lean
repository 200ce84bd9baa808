/-
  Shapes — reading records out of JSON trees.

  A record is given as an object, or as an array with its fields in order.  In an object a field of
  the record may occur once at most, and fields that the record does not have mean nothing; in an
  array fields at the end may be missing.  A field that is missing takes its default when it has
  one.  Numbers of whole fields are whole literals in range, and null stands only for a field that
  may be absent.
-/
import Turnpike.Json.Value

namespace Turnpike.Json

/-- A way to read a value out of a tree. -/
abbrev Reader (α : Type) := Tree → Option α

namespace Tree

/-- The names of the fields, if each of them can be read. -/
def fieldNames? (fields : List (Option String × Tree)) : Option (List String) :=
  fields.mapM (·.1)

/-- The trees given for the named fields, in the order of the names.  With `surplus`, an array may
    have more items than there are names. -/
def fields? (names : List String) (surplus : Bool) : Tree → Option (List (Option Tree))
  | .obj fields =>
    match fieldNames? fields with
    | none => none
    | some given =>
      if names.all fun n => given.count n ≤ 1 then
        some (names.map fun n => (fields.find? (·.1 == some n)).map (·.2))
      else none
  | .arr items =>
    if names.length < items.length && !surplus then none
    else some ((items.take names.length).map some ++
      List.replicate (names.length - items.length) none)
  | _ => none

end Tree

/-! ## Values -/

/-- A text. -/
def text? : Reader String
  | .str s => s
  | _ => none

/-- A truth value. -/
def flag? : Reader Bool
  | .bool b => some b
  | _ => none

/-- A natural number below a limit. -/
def natBelow? (limit : Nat) : Reader Nat
  | .num (some (.nat n)) => if n < limit then some n else none
  | _ => none

/-- A natural number of 64 bits. -/
def word? : Reader Nat := natBelow? 0x10000000000000000

/-- A whole number of 32 bits. -/
def int32? : Reader Int
  | .num (some (.nat n)) => if n < 0x80000000 then some n else none
  | .num (some (.neg n)) => if n ≤ 0x80000000 then some (-n) else none
  | _ => none

/-- A value or null. -/
def nullable? {α : Type} (r : Reader α) : Reader (Option α)
  | .null => some none
  | t => (r t).map some

/-- A settled value nested at most `depth` deep. -/
def any? (depth : Nat) : Reader Json := Tree.settle? depth

/-! ## Fields -/

/-- The value of a field that must be given. -/
def required {α : Type} (r : Reader α) : Option Tree → Option α
  | some t => r t
  | none => none

/-- The value of a field, or the default when it is missing. -/
def withDefault {α : Type} (r : Reader α) (default : α) : Option Tree → Option α
  | some t => r t
  | none => some default

end Turnpike.Json
