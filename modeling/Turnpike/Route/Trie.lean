/-
  The route trie — routes by the segments of their paths.

  A forest is a list of sibling nodes.  A node carries one path segment, the leaves of the routes
  whose path ends there, and the forest below it.  The root of a trie has no segment and, as no
  path is empty, no leaves, so a trie is the forest below its root.

  A single route is a chain of nodes.  Inserting it merges the chain into what is there: nodes of
  one key become one, and what only one of the two forests has stays as it is, so siblings stand
  in the order in which they were first needed.

  Searching goes depth first through siblings in order and falls back to the next sibling when
  nothing below fits.  A parameter takes everything up to the next slash, possibly nothing, but is
  entered only while some of the path is left; a leaf counts only where the path ends.
-/
import Turnpike.Text.Utf8
import Turnpike.Route.Pattern

namespace Turnpike.Route

open Turnpike.Text

/-- The slash, as a byte. -/
def slash : UInt8 := 0x2f

/-- Sibling nodes with what hangs below them; `β` is what a leaf holds. -/
inductive Forest (β : Type) where
  | nil
  | node (key : Segment) (leaves : List β) (children : Forest β) (siblings : Forest β)

namespace Forest

variable {β : Type}

/-- The forest of a single route, whose leaf hangs at the end of the path.  The empty path leads
    nowhere. -/
def branch (leaf : β) : List Segment → Forest β
  | [] => nil
  | [s] => node s [leaf] nil nil
  | s :: t :: r => node s [] (branch leaf (t :: r)) nil

/-- Takes the first node of that key out: its leaves and children, and the forest without it. -/
def extract? (key : Segment) : Forest β → Option ((List β × Forest β) × Forest β)
  | nil => none
  | node k leaves children siblings =>
    if k = key then some ((leaves, children), siblings)
    else (siblings.extract? key).map fun (n, rest) => (n, node k leaves children rest)

/-- Two forests in one.  Every node of the first takes in its twin, a node of its key that no other
    has taken in before: the leaves of the twin go behind its own, their children are merged.  What
    is left of the second forest goes behind the first. -/
def merge : Forest β → Forest β → Forest β
  | nil, u => u
  | node k leaves children siblings, u =>
    match u.extract? k with
    | none => node k leaves children (siblings.merge u)
    | some ((leaves', children'), rest) =>
      node k (leaves ++ leaves') (children.merge children') (siblings.merge rest)

/-- The forest with a leaf added at the end of a path. -/
def insert (leaf : β) (path : List Segment) (t : Forest β) : Forest β := t.merge (branch leaf path)

/-- One step down: what a segment takes of the path, with the value it captures, and what is left.
    Nothing can be taken of a path that is used up. -/
def take? : Segment → List UInt8 → Option (List (String × String) × List UInt8)
  | _, [] => none
  | .byte b, c :: r => if b = c then some ([], r) else none
  | .param name, path =>
    some ([(name, Utf8.text (path.takeWhile (· != slash)))], path.dropWhile (· != slash))

/-- The first acceptable leaf for a path, with the values captured on the way. -/
def find? (accepts : β → Bool) : Forest β → List UInt8 → Option (β × List (String × String))
  | nil, _ => none
  | node key leaves children siblings, path =>
    match take? key path with
    | none => siblings.find? accepts path
    | some (captured, rest) =>
      let below :=
        if rest = [] then (leaves.find? accepts).map (·, []) else children.find? accepts rest
      match below with
      | some (leaf, params) => some (leaf, captured ++ params)
      | none => siblings.find? accepts path

end Forest

end Turnpike.Route
