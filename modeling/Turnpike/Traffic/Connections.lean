/-
  Limits on requests in flight, one count for each token.

  A token is listed from its first admission until its count comes back to zero; admitting nothing
  lists it with a count of zero.
-/

namespace Turnpike.Traffic

/-- Counts by token, and their sum. -/
structure Connections where
  limit : Nat
  counts : List (String × Nat)
  total : Nat
  deriving DecidableEq, Repr

namespace Connections

/-- No connections. -/
def make (limit : Nat) : Connections := ⟨limit, [], 0⟩

/-- The count of a token; zero when it is not listed. -/
def count (c : Connections) (token : String) : Nat :=
  ((c.counts.find? (·.1 == token)).map (·.2)).getD 0

/-- Is the token listed? -/
def lists (c : Connections) (token : String) : Bool := c.counts.any (·.1 == token)

/-- The counts of the other tokens. -/
def others (c : Connections) (token : String) : List (String × Nat) :=
  c.counts.filter (·.1 != token)

/-- Admits `n` more connections of a token; none when that would pass the limit. -/
def acquire? (c : Connections) (token : String) (n : Nat) : Option Connections :=
  if c.limit < c.count token + n then none
  else some { c with
    counts := (token, c.count token + n) :: c.others token
    total := c.total + n }

/-- Ends `n` connections of a token, or as many as it has.  A token that is not listed has none. -/
def release (c : Connections) (token : String) (n : Nat) : Connections :=
  if c.lists token then
    let left := c.count token - n
    { c with
      counts := if left = 0 then c.others token else (token, left) :: c.others token
      total := c.total - min n (c.count token) }
  else c

/-- The number of tokens listed. -/
def tracked (c : Connections) : Nat := c.counts.length

end Connections

end Turnpike.Traffic
