/-
  Shutdown — asked for once, and for good.

  A shutdown is triggered, or forced, which triggers it as well.  Neither is ever taken back.
-/

namespace Turnpike.Life

/-- What has been asked for. -/
structure Shutdown where
  triggered : Bool := false
  forced : Bool := false
  deriving DecidableEq, Repr, Inhabited

namespace Shutdown

/-- Asks for a shutdown that lets requests under way end. -/
def trigger (s : Shutdown) : Shutdown := { s with triggered := true }

/-- Asks for a shutdown at once. -/
def force (_ : Shutdown) : Shutdown := ⟨true, true⟩

@[simp] theorem trigger_triggered (s : Shutdown) : s.trigger.triggered = true := rfl

@[simp] theorem trigger_forced (s : Shutdown) : s.trigger.forced = s.forced := rfl

@[simp] theorem force_triggered (s : Shutdown) : s.force.triggered = true := rfl

@[simp] theorem force_forced (s : Shutdown) : s.force.forced = true := rfl

end Shutdown

end Turnpike.Life
