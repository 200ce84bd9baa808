/-
  Chains — the gates of a frontend in order.

  Gates stand in the order of their priorities, and of their identifiers where priorities are equal.
  An identifier occurs once at most.
-/
import Turnpike.Error

namespace Turnpike.Gate

/-- A gate in a chain; `ι` is what stands for the gate itself. -/
structure Entry (ι : Type) where
  id : String
  priority : Int
  kind : String
  gate : ι
  deriving DecidableEq, Repr

/-- Does `a` stand before `b`, or level with it? -/
def Entry.notAfter {ι : Type} (a b : Entry ι) : Bool :=
  a.priority < b.priority || (a.priority == b.priority && a.id ≤ b.id)

/-- A chain of gates. -/
structure Chain (ι : Type) where
  entries : List (Entry ι)
  deriving Repr

namespace Chain

variable {ι : Type}

/-- The chain without gates. -/
def empty : Chain ι := ⟨[]⟩

instance : Inhabited (Chain ι) := ⟨empty⟩

/-- The chain of the given entries, each put in its place. -/
def ofEntries (es : List (Entry ι)) : Chain ι := ⟨es.mergeSort Entry.notAfter⟩

/-- The gate with that identifier. -/
def get? (c : Chain ι) (id : String) : Option (Entry ι) := c.entries.find? (·.id == id)

/-- The identifiers in order. -/
def ids (c : Chain ι) : List String := c.entries.map (·.id)

/-- The entries with the first one of that identifier replaced. -/
def replaceIn (e : Entry ι) (es : List (Entry ι)) : List (Entry ι) :=
  match es.findIdx? (·.id == e.id) with
  | some i => es.set i e
  | none => es

/-- Adds a gate.  Fails when its identifier is taken. -/
def add (c : Chain ι) (e : Entry ι) : Result (Chain ι) :=
  match c.get? e.id with
  | some _ => .error (.alreadyExists ("middleware " ++ e.id))
  | none => .ok (ofEntries (c.entries ++ [e]))

/-- Replaces a gate.  Fails when there is none with its identifier. -/
def update (c : Chain ι) (e : Entry ι) : Result (Chain ι) :=
  match c.get? e.id with
  | some _ => .ok (ofEntries (replaceIn e c.entries))
  | none => .error (.notFound ("middleware " ++ e.id))

/-- Adds a gate, or replaces the one with its identifier. -/
def upsert (c : Chain ι) (e : Entry ι) : Chain ι :=
  match c.get? e.id with
  | some _ => ofEntries (replaceIn e c.entries)
  | none => ofEntries (c.entries ++ [e])

/-- Removes a gate.  Fails when there is none with that identifier. -/
def remove (c : Chain ι) (id : String) : Result (Chain ι) :=
  match c.get? id with
  | some _ => .ok (ofEntries (c.entries.eraseP (·.id == id)))
  | none => .error (.notFound ("middleware " ++ id))

end Chain

end Turnpike.Gate
