/-
  What a call of one gate does to the gates of a plaza.

  The gates of all chains stand on one plaza and are called by number.  A call may also count and
  note things, which all gates share.  What follows are the equations of the three calls, so that no
  proof about gates has to open the plaza again.

  1. **One gate changes.**  Only the gate that is called changes, and what it changes to does not
     depend on the other gates (`gates_screen`, `gates_settle`).  So what is known of a gate is kept
     by all the calls of the others, and no call puts up a gate or takes one down.

  2. **What is said.**  What a gate says depends on nothing but itself, the time and the request
     (`screen_snd`, `retarget_snd`), and so does what is counted and noted of it, but for what was
     there before (`toAmbient_screen`, `toAmbient_settle`).

  3. **By kinds.**  For each kind of gate the functions say what a call makes of it
     (`Instance.screened`, `Instance.settled`), what it says (`Instance.verdict`, `Instance.target`)
     and what is noted (`Instance.marks`, `Instance.tells`).  A gate that is not there admits every
     request and is told nothing.

  4. **Limits.**  A limit on requests in flight stays one, and the one that is found after a call
     was there before it (`flight_of_screen`, `flight_of_settle`).
-/
import Turnpike.Gate.Plaza

namespace Turnpike.Gate

open Turnpike.Http

/-- A gate that has been asked about a request. -/
def Instance.screened (now : Nat) (r : Request) : Instance → Instance
  | .rate g => .rate (g.screen now r).1
  | .flight g => .flight (g.screen r).1
  | .retarget g => .retarget g
  | .breaker g => .breaker (g.screen now).1
  | .probe g => .probe g

/-- A gate that has been told how a request has ended. -/
def Instance.settled (now : Nat) (r : Request) (o : Option Outcome) : Instance → Instance
  | .flight g => .flight (g.settle r)
  | .breaker g => .breaker (o.elim g (g.settle now · r.age))
  | g => g

/-- What a gate says of a request. -/
def Instance.verdict (now : Nat) (r : Request) : Instance → Verdict
  | .rate g => (g.screen now r).2
  | .flight g => (g.screen r).2
  | .retarget g => .ok (g.screen r)
  | .breaker g => .ok (if (g.screen now).2 then none else some (g.screen now).1.fallback)
  | .probe g => g.screen

/-- The target when a gate was let to replace it. -/
def Instance.target (r : Request) (u : Uri) : Instance → Result Uri
  | .retarget g => g.retarget r u
  | .probe g => g.retarget u
  | _ => .ok u

/-- Counts a request turned away, when there is a response that does so. -/
def Ambient.countAnswer (a : Ambient) (reason : String) (v : Verdict) : Ambient :=
  match v with
  | .ok (some _) => a.count (.rejected reason)
  | _ => a

/-- What a gate that has been asked about a request notes of it. -/
def Instance.marks (r : Request) (a : Ambient) (g : Instance) : Ambient :=
  match g with
  | .rate _ => a.countAnswer "rate_limit" (g.verdict a.now r)
  | .flight _ => a.countAnswer "conn_limit" (g.verdict a.now r)
  | .retarget _ => a
  | .breaker _ => a.countAnswer "circuit_breaker" (g.verdict a.now r)
  | .probe g => { a with journal := a.journal ++ [g.requestNote r] }

/-- What a gate that has been told how a request has ended notes of it. -/
def Instance.tells (o : Option Outcome) (a : Ambient) (g : Instance) : Ambient :=
  match g with
  | .probe g => { a with journal := a.journal ++ [g.outcomeNote o] }
  | _ => a

namespace Plaza

variable {p : Plaza} {n : Serial} {g : Instance} {f : Instance → Instance}

/-! ## One gate in another state -/

@[simp] theorem gates_countAnswer (p : Plaza) (reason : String) (v : Verdict) :
    (p.countAnswer reason v).gates = p.gates := by
  unfold countAnswer
  split <;> rfl

/-- To store a gate in another state is to change it in its place. -/
theorem gates_store {g' : Instance} (h : p.gate? n = some g) (hf : f g = g') :
    (p.store n g').gates = p.gates.modify n f := by
  refine Array.ext_getElem? fun i => ?_
  have hlt : n < p.gates.size := (Array.getElem?_eq_some_iff.mp h).1
  rw [store, Array.getElem?_setIfInBounds, Array.getElem?_modify]
  -- place by place: the gate is at this one, or not
  by_cases hni : n = i
  · subst hni
    rw [if_pos rfl, if_pos hlt, if_pos rfl, show p.gates[n]? = some g from h, Option.map_some, hf]
  · rw [if_neg hni, if_neg hni]

/-- Where there is no gate, nothing changes. -/
theorem modify_of_none (h : p.gate? n = none) : p.gates.modify n f = p.gates := by
  refine Array.ext_getElem? fun i => ?_
  rw [Array.getElem?_modify]
  split
  case isTrue hni => rw [← hni, show p.gates[n]? = none from h, Option.map_none]
  case isFalse => rfl

/-- A gate that stays as it is leaves all gates as they are. -/
theorem modify_of_same (h : p.gate? n = some g) (hf : f g = g) :
    p.gates.modify n f = p.gates := by
  refine Array.ext_getElem? fun i => ?_
  rw [Array.getElem?_modify]
  split
  case isTrue hni => rw [← hni, show p.gates[n]? = some g from h, Option.map_some, hf]
  case isFalse => rfl

/-! ## Calls -/

/-- To ask a gate changes that gate only. -/
theorem gates_screen (n : Serial) (r : Request) (p : Plaza) :
    (p.screen n r).1.gates = p.gates.modify n (·.screened p.now r) := by
  unfold screen
  cases hn : p.gate? n with
  | none => exact (modify_of_none hn).symm
  | some g =>
    cases g with
    | rate g => exact (gates_countAnswer _ _ _).trans (gates_store hn rfl)
    | flight g => exact (gates_countAnswer _ _ _).trans (gates_store hn rfl)
    | retarget g => exact (modify_of_same hn rfl).symm
    | breaker g => exact (gates_countAnswer _ _ _).trans (gates_store hn rfl)
    | probe g => exact (modify_of_same hn rfl).symm

/-- To tell a gate how a request has ended changes that gate only. -/
theorem gates_settle (n : Serial) (r : Request) (o : Option Outcome) (p : Plaza) :
    (p.settle n r o).gates = p.gates.modify n (·.settled p.now r o) := by
  unfold settle
  cases hn : p.gate? n with
  | none => exact (modify_of_none hn).symm
  | some g =>
    cases g with
    | rate g => exact (modify_of_same hn rfl).symm
    | flight g => exact gates_store hn rfl
    | retarget g => exact (modify_of_same hn rfl).symm
    | breaker g =>
      cases o with
      | none => exact (modify_of_same hn rfl).symm
      | some o => exact gates_store hn rfl
    | probe g => exact (modify_of_same hn rfl).symm

theorem retarget_fst (n : Serial) (r : Request) (u : Uri) (p : Plaza) :
    (p.retarget n r u).1 = p := by
  unfold retarget
  split <;> rfl

/-- The gate of a number after some gate has been asked. -/
theorem gate?_screen (m n : Serial) (r : Request) (p : Plaza) :
    (p.screen m r).1.gate? n =
      (p.gate? n).map fun g => if m = n then g.screened p.now r else g := by
  unfold gate?
  rw [gates_screen, Array.getElem?_modify]
  split
  case isTrue => rfl
  case isFalse => exact Option.map_id'.symm

/-- The gate of a number after some gate has been told. -/
theorem gate?_settle (m n : Serial) (r : Request) (o : Option Outcome) (p : Plaza) :
    (p.settle m r o).gate? n =
      (p.gate? n).map fun g => if m = n then g.settled p.now r o else g := by
  unfold gate?
  rw [gates_settle, Array.getElem?_modify]
  split
  case isTrue => rfl
  case isFalse => exact Option.map_id'.symm

/-! ## What is said and noted -/

/-- What is said of a request is the verdict of the gate. -/
theorem screen_snd (n : Serial) (r : Request) (p : Plaza) :
    (p.screen n r).2 = (p.gate? n).elim (.ok none) (·.verdict p.now r) := by
  unfold screen
  cases p.gate? n with
  | none => rfl
  | some g => cases g <;> rfl

/-- The target is what the gate makes of it. -/
theorem retarget_snd (n : Serial) (r : Request) (u : Uri) (p : Plaza) :
    (p.retarget n r u).2 = (p.gate? n).elim (.ok u) (·.target r u) := by
  unfold retarget
  cases p.gate? n with
  | none => rfl
  | some g => cases g <;> rfl

/-- What is counted does not depend on the gates. -/
theorem toAmbient_countAnswer (p : Plaza) (reason : String) (v : Verdict) :
    (p.countAnswer reason v).toAmbient = p.toAmbient.countAnswer reason v := by
  rcases v with err | resp | resp
  · rfl
  · rfl
  · rfl

/-- What is noted when a gate is asked is its own matter. -/
theorem toAmbient_screen (n : Serial) (r : Request) (p : Plaza) :
    (p.screen n r).1.toAmbient = (p.gate? n).elim p.toAmbient (·.marks r p.toAmbient) := by
  unfold screen
  cases p.gate? n with
  | none => rfl
  | some g =>
    cases g with
    | rate g => exact toAmbient_countAnswer (p.store n (.rate (g.screen p.now r).1)) _ _
    | flight g => exact toAmbient_countAnswer (p.store n (.flight (g.screen r).1)) _ _
    | retarget g => rfl
    | breaker g => exact toAmbient_countAnswer (p.store n (.breaker (g.screen p.now).1)) _ _
    | probe g => rfl

/-- So it is when a gate is told. -/
theorem toAmbient_settle (n : Serial) (r : Request) (o : Option Outcome) (p : Plaza) :
    (p.settle n r o).toAmbient = (p.gate? n).elim p.toAmbient (·.tells o p.toAmbient) := by
  unfold settle
  cases p.gate? n with
  | none => rfl
  | some g =>
    cases g with
    | rate g => rfl
    | flight g => rfl
    | retarget g => rfl
    | breaker g =>
      cases o with
      | none => rfl
      | some o => rfl
    | probe g => rfl

/-! ## Limits on requests in flight -/

theorem screen_flight {g : FlightLimit} (h : p.gate? n = some (.flight g)) (r : Request) :
    (p.screen n r).2 = (g.screen r).2 := by
  rw [screen, h]

/-- A limit that is found when some gate has been asked was there before. -/
theorem flight_of_screen {m : Serial} {r : Request} {g' : FlightLimit}
    (h : (p.screen m r).1.gate? n = some (.flight g')) :
    ∃ g, p.gate? n = some (.flight g) ∧ g' = if m = n then (g.screen r).1 else g := by
  rw [gate?_screen] at h
  obtain ⟨i, hi, hg⟩ := Option.map_eq_some_iff.mp h
  split at hg
  case isTrue hmn =>
    -- a gate of another kind does not become a limit
    cases i <;> cases hg
    exact ⟨_, hi, (if_pos hmn).symm⟩
  case isFalse hmn =>
    subst hg
    exact ⟨g', hi, (if_neg hmn).symm⟩

/-- A limit that is found when some gate has been told of a request was there before. -/
theorem flight_of_settle {m : Serial} {r : Request} {o : Option Outcome} {g' : FlightLimit}
    (h : (p.settle m r o).gate? n = some (.flight g')) :
    ∃ g, p.gate? n = some (.flight g) ∧ g' = if m = n then g.settle r else g := by
  rw [gate?_settle] at h
  obtain ⟨i, hi, hg⟩ := Option.map_eq_some_iff.mp h
  split at hg
  case isTrue hmn =>
    cases i <;> cases hg
    exact ⟨_, hi, (if_pos hmn).symm⟩
  case isFalse hmn =>
    subst hg
    exact ⟨g', hi, (if_neg hmn).symm⟩

end Plaza

end Turnpike.Gate
