/-
  Changes that fail.

  A change has several places where it can go wrong: an entity that is not valid, an address or a
  route that is taken, a socket that cannot be bound, a gate that cannot be built.  If it went wrong
  after the first write, a proxy would be left that no store describes, and nobody would put it
  right.

  1. **All or nothing** (`unchanged_of_error`).  All checks come before the first write, so a change
     that fails leaves the proxy as it was, down to its counters.  That is what it means to be
     settled (`Settled`): the change was applied, in one of the ways that there are, or it failed
     and left the proxy alone.

  2. **No other way** (`apply_error_iff`).  A change that fails could not have been applied in any
     of these ways.  So whether it fails is known from the proxy, from what can be bound and built,
     and from the change.

  3. **Runs** (`run_achieved`).  A run of attempts is therefore settled by those that succeed: the
     others can be struck out, and the rest comes to the same.
-/
import Turnpike.Proofs.Proxy.Integrity
import Turnpike.Proxy.Listen

namespace Turnpike.Proxy

open Turnpike.Entity

section Failure

variable {g : Ground} {now : Nat} {p : Proxy}

/-- A change fails just when none of the ways to apply it is open. -/
theorem apply_error_iff {c : Change} :
    (∃ e, (p.apply g now c).2 = .error e) ↔ ∀ q, ¬ Applied g now p c q := by
  constructor
  · intro h q happ
    obtain ⟨e, he⟩ := h
    rw [happ.apply_eq] at he
    cases he
  · intro hnone
    have hset : Settled g now p c (p.apply g now c) := settled_apply c
    -- the change is settled one way or the other
    rcases hset with ⟨q, -, happ⟩ | ⟨e, he⟩
    · exact absurd happ (hnone q)
    · refine ⟨e, ?_⟩
      rw [he]
      rfl

/-- A change that fails changes nothing, and could not have been applied. -/
theorem unchanged_of_error {c : Change} {e : Error} (h : (p.apply g now c).2 = .error e) :
    (p.apply g now c).1 = p ∧ ∀ q, ¬ Applied g now p c q := by
  have hne : (p.apply g now c).2 ≠ .ok () := by
    intro hok
    rw [hok] at h
    cases h
  exact ⟨apply_fst_of_error hne, apply_error_iff.mp ⟨e, h⟩⟩

/-- A proxy in service at one address, with no other address left to bind. -/
def cornered : Proxy :=
  (((make 1 {}).apply ⟨.empty, fun _ => true⟩ 0
    (.upsert (.listener { id := "web", address := { address := "127.0.0.1:80" } }))).1.start
      ⟨.empty, fun _ => true⟩).1

/-- A listener in service is to move, and its new address cannot be bound. -/
theorem unchanged_of_error_cornered :
    let move : Change :=
      .upsert (.listener { id := "web", address := { address := "127.0.0.1:81" } })
    cornered.sockets.map (·.2.address) = ["127.0.0.1:80"] ∧
      (cornered.apply ⟨.empty, fun _ => false⟩ 0 move).2 = .error .io ∧
      (cornered.apply ⟨.empty, fun _ => false⟩ 0 move).1 = cornered ∧
      ∀ q, ¬ Applied ⟨.empty, fun _ => false⟩ 0 cornered move q := by
  have hio : (cornered.apply ⟨.empty, fun _ => false⟩ 0
      (.upsert (.listener { id := "web", address := { address := "127.0.0.1:81" } }))).2 =
        .error .io := by
    decide +kernel
  exact ⟨by decide +kernel, hio, unchanged_of_error hio⟩

end Failure

/-! ## Runs -/

/-- The attempts that succeed when all are made one after the other. -/
def achieved (p : Proxy) : List Attempt → List Attempt
  | [] => []
  | a :: as =>
    match p.apply a.ground a.now a.change with
    | (q, .ok ()) => a :: q.achieved as
    | (_, .error _) => p.achieved as

section Runs

variable {p : Proxy} {a : Attempt} {as : List Attempt}

theorem run_cons : p.run (a :: as) = (p.apply a.ground a.now a.change).1.run as := rfl

/-- An attempt that succeeds is among those that do. -/
theorem achieved_of_ok (h : (p.apply a.ground a.now a.change).2 = .ok ()) :
    p.achieved (a :: as) = a :: (p.apply a.ground a.now a.change).1.achieved as := by
  rw [achieved]
  split
  case h_1 q hq => rw [hq]
  case h_2 q e hq =>
    rw [hq] at h
    cases h

/-- One that fails is not. -/
theorem achieved_of_error {e : Error} (h : (p.apply a.ground a.now a.change).2 = .error e) :
    p.achieved (a :: as) = p.achieved as := by
  rw [achieved]
  split
  case h_1 q hq =>
    rw [hq] at h
    cases h
  case h_2 => rfl

/-- Attempts that fail can be struck out of a run. -/
theorem run_achieved (p : Proxy) (as : List Attempt) : p.run (p.achieved as) = p.run as := by
  induction as generalizing p with
  | nil => rfl
  | cons a as ih =>
    cases hres : (p.apply a.ground a.now a.change).2 with
    | ok =>
      rw [achieved_of_ok hres, run_cons, run_cons]
      exact ih (p.apply a.ground a.now a.change).1
    | error e =>
      -- the proxy after a failed attempt is the proxy before it
      have hsame : (p.apply a.ground a.now a.change).1 = p := by
        apply apply_fst_of_error
        rw [hres]
        exact fun hok => by cases hok
      rw [achieved_of_error hres, run_cons, hsame]
      exact ih p

end Runs

end Turnpike.Proxy
