/-
  Taking apart what went well.

  Nearly every operation of a proxy may fail, and is put together of steps that may fail.  That such
  a computation has a result says that every step has one, and which one the next step was given.
  There are two ways of putting steps together, and a lemma for each to take them apart again:
  `map_eq_ok` where the last step cannot fail, `bind_eq_ok` where it can.  Proofs that start from
  the success of an operation peel it with these from the outside, one `obtain` for each step, and
  never open the whole of it.

  The third lemma is for two computations side by side.  Where two states look alike, so do the
  results of one operation on them; `cases_of_map_eq` turns the equation that says so into the two
  cases that there can be.
-/
import Turnpike.Error

namespace Turnpike.Result

variable {ε α β : Type}

/-- A mapped computation has a result when it has one that is mapped to it. -/
theorem map_eq_ok {f : α → β} {x : Except ε α} {b : β} :
    x.map f = .ok b ↔ ∃ a, x = .ok a ∧ f a = b := by
  constructor
  · intro h
    cases x with
    | error e => cases h
    | ok a => cases h; exact ⟨a, rfl, rfl⟩
  · rintro ⟨a, rfl, rfl⟩
    rfl

/-- Computations that agree in what `f` shows both fail with the same error, or both have a result. -/
theorem cases_of_map_eq {f : α → β} {x y : Except ε α} (h : x.map f = y.map f) :
    (∃ e, x = .error e ∧ y = .error e) ∨ ∃ a b, x = .ok a ∧ y = .ok b ∧ f a = f b := by
  cases x with
  | error e =>
    cases y with
    | error e' => cases h; exact .inl ⟨e, rfl, rfl⟩
    | ok b => cases h
  | ok a =>
    obtain ⟨b, hb, heq⟩ := map_eq_ok.mp h.symm
    exact .inr ⟨a, b, rfl, hb, heq.symm⟩

/-- Two steps have a result when the first one has, and the second one has with that. -/
theorem bind_eq_ok {x : Except ε α} {f : α → Except ε β} {b : β} :
    x >>= f = .ok b ↔ ∃ a, x = .ok a ∧ f a = .ok b := by
  constructor
  · intro h
    cases x with
    | error e => cases h
    | ok a => exact ⟨a, rfl, h⟩
  · rintro ⟨a, rfl, h⟩
    exact h

end Turnpike.Result
