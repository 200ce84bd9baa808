/-
  Trackers — how many requests are under way.

  A request is counted from its beginning to its end, whatever its end; a shutdown waits until none
  is left.
-/

namespace Turnpike.Life

/-- The number of requests under way. -/
structure Tracker where
  active : Nat := 0
  deriving DecidableEq, Repr, Inhabited

namespace Tracker

/-- A request begins. -/
def enter (t : Tracker) : Tracker := ⟨t.active + 1⟩

/-- A request ends. -/
def leave (t : Tracker) : Tracker := ⟨t.active - 1⟩

/-- Is no request under way? -/
def isIdle (t : Tracker) : Bool := t.active == 0

@[simp] theorem leave_enter (t : Tracker) : t.enter.leave = t := rfl

end Tracker

end Turnpike.Life
