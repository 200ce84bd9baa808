/-
  The store — keys with values, and the history of their mutations.

  Every mutation raises the revision by one and is sent to the open watches; the log holds all that
  was ever sent.  The latest mutations are kept as history besides, so that a watch can start from an
  earlier revision; how many is a property of the store.  A full history loses its oldest mutation
  when the next one is recorded.

  A listing shows the entries under a prefix in the order of their keys.
-/
import Turnpike.Dictionary
import Turnpike.Error
import Turnpike.Text.Ascii

namespace Turnpike

namespace Store

/-- What happened to a key, and the revision that it made. -/
structure Mutation where
  key : String
  /-- The new value; none when the key was deleted. -/
  value : Option String
  revision : Nat
  deriving DecidableEq, Repr, Inhabited

/-- A stored value with the revision that put it there. -/
structure Entry where
  value : String
  revision : Nat
  deriving DecidableEq, Repr, Inhabited

end Store

/-- Keys with values. -/
structure Store where
  /-- How many mutations are kept as history. -/
  historyLimit : Nat
  entries : Dictionary Store.Entry
  /-- What was sent to the open watches: every mutation, the latest first. -/
  log : List Store.Mutation
  /-- The mutations that a new watch can still be given, the earliest first. -/
  history : List Store.Mutation
  /-- How often all open watches have been broken. -/
  breaks : Nat

namespace Store

/-- The number of mutations kept as history unless another is asked for. -/
def usualHistory : Nat := 10000

/-- An empty store.  At least one mutation is kept as history. -/
def make (historyLimit : Nat) : Store := ⟨max historyLimit 1, .empty, [], [], 0⟩

/-- An empty store with the usual history. -/
def empty : Store := make usualHistory

instance : Inhabited Store := ⟨empty⟩

/-- The number of mutations so far. -/
def revision (s : Store) : Nat := s.log.length

/-! ## Writing -/

/-- Keeps a mutation as history and sends it to the open watches. -/
def record (s : Store) (m : Mutation) : Store :=
  { s with
    log := m :: s.log
    history := (if s.history.length = s.historyLimit then s.history.tail else s.history) ++ [m] }

/-- Puts a value under a key. -/
def put (s : Store) (key value : String) : Store :=
  { s with entries := s.entries.insert key ⟨value, s.revision + 1⟩ }.record
    ⟨key, some value, s.revision + 1⟩

/-- Deletes a key, if it is there. -/
def delete (s : Store) (key : String) : Store :=
  if s.entries.contains key then
    { s with entries := s.entries.erase key }.record ⟨key, none, s.revision + 1⟩
  else s

/-- Does a key begin with this prefix? -/
def under (stem key : String) : Bool := stem.toList.isPrefixOf key.toList

/-- The keys under a prefix, in order. -/
def keysUnder (s : Store) (stem : String) : List String :=
  (s.entries.keys).filter (under stem)

/-- The number of keys under a prefix, which is told when they are deleted. -/
def countUnder (s : Store) (stem : String) : Nat := (s.keysUnder stem).length

/-- Deletes the keys under a prefix, the last one first. -/
def deleteUnder (s : Store) (stem : String) : Store :=
  (s.keysUnder stem).reverse.foldl delete s

/-- Puts values under a prefix, each key without the slashes at its start. -/
def seed (s : Store) (stem : String) (values : List (String × String)) : Store :=
  values.foldl (fun s (k, v) => s.put (seedKey stem k) v) s
where
  /-- The key of a seed value. -/
  seedKey (stem key : String) : String :=
    String.ofList (Text.trimEnd '/' stem.toList ++ '/' :: Text.trimStart '/' key.toList)

/-- Breaks all open watches. -/
def breakWatches (s : Store) : Store := { s with breaks := s.breaks + 1 }

/-! ## Reading -/

/-- The entry under a key. -/
def get? (s : Store) (key : String) : Option Entry := s.entries.get? key

/-- The entries under a prefix, in the order of their keys. -/
def list (s : Store) (stem : String) : List (String × Entry) :=
  s.entries.filterKeys (under stem)

/-- The mutations sent after a revision, the earliest first. -/
def since (s : Store) (after : Nat) : List Mutation :=
  (s.log.take (s.revision - after)).reverse

/-- The earliest mutation in the history, if there is a gap between a revision and it. -/
def compacted? (s : Store) (after : Nat) : Option Mutation :=
  s.history.head?.filter (after + 1 < ·.revision)

end Store

end Turnpike
