/-
  The visit of a request at the gates of a chain.

  A session asks the gates of its chain about a request, and when they have let it through, it lets
  them replace the target.  Both are done at once, and only then does the session go on, so it is
  convenient to take them together.

  1. **A visit** (`Pipeline.visit`) is the walk through the chain, and then, for a request that was
     let through, the replacement of its target.  Whatever fails on the way is made into the
     response that it stands for.

  2. **Passing** (`Pipeline.Passes`).  A visit has a target when all gates admit the request and all
     agree to the replacement, and only then (`visit_eq_ok`).  The outcome is still what it was: no
     gate has given one (`outcome_visit`).

  3. **Events.**  What the gates are called for during a visit is a passage like any other, so that
     noting it changes nothing (`visit_noted`), and what is known of passages is known of visits
     (`Kept.visit`).
-/
import Turnpike.Proofs.Gate.Passage

namespace Turnpike.Gate

open Turnpike.Http

variable {ι σ : Type}

namespace Pipeline

/-! ## Visits -/

/-- Asks the gates, and lets those that have admitted the request replace its target.  The result is
    the target, or the response to a request that is not let through. -/
def visit (h : Hooks ι σ) (t : Pipeline ι) (s : σ) (u : Uri) :
    Pipeline ι × σ × Except Response Uri :=
  match t.process h s with
  | (t, s, .error e) => (t, s, .error (.ofError e))
  | (t, s, .ok (some r)) => (t, s, .error r)
  | (t, s, .ok none) =>
    match t.retarget h s u with
    | (s, .ok u) => (t, s, .ok u)
    | (s, .error e) => (t, s, .error (.ofError e))

/-- All gates admit the request, and all of them agree to the replacement of its target. -/
def Passes (h : Hooks ι σ) (t : Pipeline ι) (s : σ) (u v : Uri) : Prop :=
  (t.process h s).2.2 = .ok none ∧
    ((t.process h s).1.retarget h (t.process h s).2.1 u).2 = .ok v

variable {h : Hooks ι σ} {t : Pipeline ι} {s : σ} {u v : Uri}

/-- A request that passes is retargeted by the gates that have admitted it. -/
theorem visit_of_passes (hpass : t.Passes h s u v) :
    t.visit h s u =
      ((t.process h s).1, ((t.process h s).1.retarget h (t.process h s).2.1 u).1, .ok v) := by
  obtain ⟨hverdict, htarget⟩ := hpass
  unfold visit
  split
  case h_1 hp => rw [hp] at hverdict; cases hverdict
  case h_2 hp => rw [hp] at hverdict; cases hverdict
  case h_3 hp =>
    rw [hp] at htarget ⊢
    split
    case h_1 hr => rw [hr] at htarget ⊢; cases htarget; rfl
    case h_2 hr => rw [hr] at htarget; cases htarget

/-- A visit has a target exactly when the request passes. -/
theorem visit_eq_ok : (t.visit h s u).2.2 = .ok v ↔ t.Passes h s u v := by
  constructor
  · intro hok
    -- a response is no target, so the walk and the replacement have both ended well
    unfold visit at hok
    split at hok
    case h_1 => cases hok
    case h_2 => cases hok
    case h_3 hp =>
      split at hok
      case h_1 hr =>
        cases hok
        exact ⟨by rw [hp], by rw [hp]; exact congrArg Prod.snd hr⟩
      case h_2 => cases hok
  · intro hpass
    rw [visit_of_passes hpass]

/-- Gates that admit a request give it no outcome. -/
theorem outcome_ask {gates : List (Entry ι)} (hverdict : (t.ask h s gates).2.2 = .ok none) :
    (t.ask h s gates).1.outcome = t.outcome := by
  induction gates generalizing t s with
  | nil => rfl
  | cons e gates ih =>
    rcases hs : h.screen e.gate t.request s with ⟨s', err | resp | resp⟩
    · rw [ask_of_error hs] at hverdict
      cases hverdict
    · rw [ask_of_admission hs] at hverdict ⊢
      exact ih hverdict
    · rw [ask_of_answer hs] at hverdict
      cases hverdict

/-- A request that passes has been given no outcome. -/
theorem outcome_visit (hok : (t.visit h s u).2.2 = .ok v) :
    (t.visit h s u).1.outcome = t.outcome := by
  have hpass := visit_eq_ok.mp hok
  rw [visit_of_passes hpass]
  exact outcome_ask hpass.1

/-- To note the events of a visit does not change it. -/
theorem visit_noted (h : Hooks ι σ) (t : Pipeline ι) (s : σ) (es : List (Event ι)) (u : Uri) :
    (t.visit h.noted (s, es) u).1 = (t.visit h s u).1 ∧
      (t.visit h.noted (s, es) u).2.1.1 = (t.visit h s u).2.1 ∧
      (t.visit h.noted (s, es) u).2.2 = (t.visit h s u).2.2 := by
  obtain ⟨hpipeline, hstate, hverdict⟩ := t.process_noted h s es
  unfold visit
  rcases hn : t.process h.noted (s, es) with ⟨t', ⟨s', es'⟩, v⟩
  rcases hp : t.process h s with ⟨t'', s'', v'⟩
  rw [hn, hp] at hpipeline hstate hverdict
  -- the walk comes to the same, so what follows begins at the same
  obtain rfl : t' = t'' := hpipeline
  obtain rfl : s' = s'' := hstate
  obtain rfl : v = v' := hverdict
  rcases v with err | resp | resp
  · exact ⟨rfl, rfl, rfl⟩
  · obtain ⟨hstate, htarget⟩ := t'.retarget_noted h s' es' u
    dsimp only
    rcases hrn : t'.retarget h.noted (s', es') u with ⟨⟨s₁, es₁⟩, w⟩
    rcases hr : t'.retarget h s' u with ⟨s₂, w'⟩
    rw [hrn, hr] at hstate htarget
    obtain rfl : s₁ = s₂ := hstate
    obtain rfl : w = w' := htarget
    cases w with
    | error e => exact ⟨rfl, rfl, rfl⟩
    | ok u => exact ⟨rfl, rfl, rfl⟩
  · exact ⟨rfl, rfl, rfl⟩

end Pipeline

namespace Kept

variable {c : Chain ι} {r : Request} {p : Pipeline ι} {es : List (Event ι)}

/-- What has happened in a visit tells where the request stands. -/
theorem visit (k : Kept c r p es) (h : Hooks ι σ) (s : σ) (u : Uri) :
    Kept c r (p.visit h.noted (s, es) u).1 (p.visit h.noted (s, es) u).2.1.2 := by
  have kasked := k.ask h s rfl
  unfold Pipeline.visit
  rw [Pipeline.process]
  rcases ha : p.ask h.noted (s, es) (p.entries.drop p.admitted) with ⟨t, ⟨s', es'⟩, v⟩
  rw [ha] at kasked
  rcases v with err | resp | resp
  · exact kasked
  -- the request was let through, and its target is replaced
  · obtain ⟨n, hevents, -⟩ := kasked.retarget_events h s' u
    have hgates : ∀ g ∈ (admissions es').take n, g ∈ admissions es' :=
      fun g hg => List.mem_of_mem_take hg
    have kmoved := kasked.retargeted hgates
    rw [← hevents] at kmoved
    dsimp only
    rcases hr : t.retarget h.noted (s', es') u with ⟨⟨s₁, es₁⟩, w⟩
    rw [hr] at kmoved
    cases w with
    | error e => exact kmoved
    | ok u => exact kmoved
  · exact kasked

end Kept

end Turnpike.Gate
