/-
  The passage of a request through a chain.

  On its way a request is asked about, retargeted and completed, in any order and any number of
  times; its chain is edited meanwhile, and other requests change what the gates share.  Then it
  leaves.  What has to be known is that the gates are called in pairs: each that has admitted the
  request is told when it leaves, once, in the reverse order, and no other one is.

  What gates do is not known: they admit, answer or fail as they like.  They may depend on what they
  share in any way, so what other requests do between two gates of one walk through the chain is
  covered, too: it can be taken for something that the gates do.

  1. **Events** (`Event`).  The calls of gates are noted, in their order, together with the
     outcomes.  A list of events tells which gates have admitted the request (`admissions`), what
     its outcome is (`lastOutcome`), and whether each event was allowed after those before it
     (`Orderly`).

  2. **Noting** (`Hooks.noted`).  To see which gates are called, their hooks are made to note it, in
     a state of their own beside what the gates share.  That changes nothing else: each of the
     operations comes to the same with and without (`process_noted`, `retarget_noted`,
     `leave_noted`), by induction on the gates that are called.

  3. **The invariant** (`Kept`).  The events so far determine where a request stands: those that
     have admitted it are the first gates of the chain that it found, as many as its pipeline
     counts.  One lemma for each way in which a gate may answer keeps it (`Kept.admitted`,
     `Kept.refuse`), and the walk is an induction on the gates that are left (`Kept.ask`).

  4. **All passages** (`Passage.unwinds`).  Every step keeps the invariant (`Step.kept`), and so
     does a passage of any number of steps.  What a request that leaves tells is read off it.
-/
import Mathlib.Data.List.Induction
import Turnpike.Gate.Pipeline
import Turnpike.Proofs.Gate.Chain
import Turnpike.Proofs.Lists

namespace Turnpike.Gate

open Turnpike.Http

variable {ι σ : Type}

/-! ## Events -/

/-- What happens to a request: a gate says something of it, replaces its target, or is told how it
    has ended; or its outcome is noted. -/
inductive Event (ι : Type) where
  | screened (gate : ι) (request : Request) (verdict : Verdict)
  | retargeted (gate : ι) (request : Request)
  | settled (gate : ι) (request : Request) (outcome : Option Outcome)
  | completed (outcome : Outcome)

/-- The gate that has admitted the request. -/
def Event.admission? : Event ι → Option ι
  | .screened g _ (.ok none) => some g
  | _ => none

/-- The outcome that the request has from then on: that of an answer, or the one noted. -/
def Event.outcome? : Event ι → Option Outcome
  | .screened _ _ (.ok (some resp)) => some (.status resp.status)
  | .completed o => some o
  | _ => none

/-- The gates that have admitted the request, in the order in which they did. -/
def admissions (es : List (Event ι)) : List ι := es.filterMap Event.admission?

/-- The last outcome, if there is one. -/
def lastOutcome (es : List (Event ι)) : Option Outcome := (es.filterMap Event.outcome?).getLast?

/-- May this happen after all that has happened to a request, before it leaves?  The gate to be asked
    is the one behind those that have admitted the request; only these replace its target; none is
    told how it has ended. -/
def Event.Fits (gates : List ι) (r : Request) (before : List (Event ι)) : Event ι → Prop
  | .screened g r' _ => r' = r ∧ gates[(admissions before).length]? = some g
  | .retargeted g r' => r' = r ∧ g ∈ admissions before
  | .settled .. => False
  | .completed _ => True

/-- Each event fits those before it. -/
def Orderly (gates : List ι) (r : Request) (es : List (Event ι)) : Prop :=
  ∀ before e after, es = before ++ e :: after → e.Fits gates r before

theorem orderly_nil (gates : List ι) (r : Request) : Orderly gates r [] := by
  intro before e after heq
  simp at heq

/-- Events stay in order when one follows that fits them. -/
theorem Orderly.snoc {gates : List ι} {r : Request} {es : List (Event ι)} {e : Event ι}
    (h : Orderly gates r es) (he : e.Fits gates r es) : Orderly gates r (es ++ [e]) := by
  intro before f after heq
  obtain ⟨-, rfl, rfl⟩ | ⟨init, -, hes⟩ := Lists.split_of_snoc heq
  · exact he
  · exact h before f init hes

/-- So they do when several follow, each of which fits whatever is between. -/
theorem Orderly.append {gates : List ι} {r : Request} {es news : List (Event ι)}
    (h : Orderly gates r es) (hfits : ∀ e ∈ news, ∀ before, es <+: before → e.Fits gates r before) :
    Orderly gates r (es ++ news) := by
  induction news using List.reverseRecOn with
  | nil => simpa using h
  | append_singleton news e ih =>
    rw [← List.append_assoc]
    refine (ih fun f hf => hfits f (List.mem_append_left [e] hf)).snoc ?_
    exact hfits e (by simp) _ (List.prefix_append es news)

theorem admissions_append (es es' : List (Event ι)) :
    admissions (es ++ es') = admissions es ++ admissions es' := List.filterMap_append

/-- The last event decides, if it gives an outcome. -/
theorem lastOutcome_snoc (es : List (Event ι)) (e : Event ι) :
    lastOutcome (es ++ [e]) = e.outcome?.or (lastOutcome es) := by
  unfold lastOutcome
  rw [List.filterMap_append, List.filterMap_cons, List.filterMap_nil]
  cases e.outcome? with
  | none => simp
  | some o => simp

/-! ## Hooks that note what they are called for -/

/-- Gates that do the same, and whose events are noted. -/
def Hooks.noted (h : Hooks ι σ) : Hooks ι (σ × List (Event ι)) where
  screen g r s :=
    let (s', v) := h.screen g r s.1
    ((s', s.2 ++ [.screened g r v]), v)
  retarget g r u s :=
    let (s', v) := h.retarget g r u s.1
    ((s', s.2 ++ [.retargeted g r]), v)
  settle g r o s := (h.settle g r o s.1, s.2 ++ [.settled g r o])

theorem Hooks.screen_noted {h : Hooks ι σ} {g : ι} {r : Request} {s s' : σ} {v : Verdict}
    (hs : h.screen g r s = (s', v)) (es : List (Event ι)) :
    h.noted.screen g r (s, es) = ((s', es ++ [.screened g r v]), v) := by
  simp only [noted, hs]

theorem Hooks.retarget_noted {h : Hooks ι σ} {g : ι} {r : Request} {u : Uri} {s s' : σ}
    {v : Result Uri} (hs : h.retarget g r u s = (s', v)) (es : List (Event ι)) :
    h.noted.retarget g r u (s, es) = ((s', es ++ [.retargeted g r]), v) := by
  simp only [noted, hs]

namespace Pipeline

/-! ## One gate after the other -/

section Calls

variable {h : Hooks ι σ} {p : Pipeline ι} {s s' : σ} {e : Entry ι} {gates : List (Entry ι)}

/-- A gate that fails ends the walk. -/
theorem ask_of_error {err : Error} (hs : h.screen e.gate p.request s = (s', .error err)) :
    p.ask h s (e :: gates) = (p, s', .error err) := by
  rw [ask, hs]

/-- So does one that answers, and its answer is the outcome. -/
theorem ask_of_answer {resp : Response}
    (hs : h.screen e.gate p.request s = (s', .ok (some resp))) :
    p.ask h s (e :: gates) =
      ({ p with outcome := some (.status resp.status) }, s', .ok (some resp)) := by
  rw [ask, hs]

theorem ask_of_admission (hs : h.screen e.gate p.request s = (s', .ok none)) :
    p.ask h s (e :: gates) = { p with admitted := p.admitted + 1 }.ask h s' gates := by
  rw [ask, hs]

/-- A target that has been replaced is handed to the next gate. -/
theorem retargetBy_of_ok {r : Request} {u v : Uri} (hs : h.retarget e.gate r u s = (s', .ok v)) :
    retargetBy h r s u (e :: gates) = retargetBy h r s' v gates := by
  rw [retargetBy, hs]

theorem retargetBy_of_error {r : Request} {u : Uri} {err : Error}
    (hs : h.retarget e.gate r u s = (s', .error err)) :
    retargetBy h r s u (e :: gates) = (s', .error err) := by
  rw [retargetBy, hs]

/-- The gate behind those that have admitted a request may join them. -/
theorem split_of_drop {rest : List (Entry ι)} (hrest : p.entries.drop p.admitted = e :: rest) :
    p.admitted + 1 ≤ p.entries.length ∧ p.entries[p.admitted]? = some e ∧
      p.entries.drop (p.admitted + 1) = rest ∧ p.entries.take (p.admitted + 1) = p.passed ++ [e] := by
  have hget : p.entries[p.admitted]? = some e := by rw [← List.head?_drop, hrest, List.head?_cons]
  refine ⟨(List.getElem?_eq_some_iff.mp hget).1, hget, ?_, ?_⟩
  · rw [← List.tail_drop, hrest, List.tail_cons]
  · rw [List.take_add_one, hget, Option.toList_some, passed]

end Calls

/-! ## Noting changes nothing -/

section Noted

variable (h : Hooks ι σ) (p : Pipeline ι) (s : σ) (es : List (Event ι))

/-- To note the events of a part of a walk does not change it. -/
theorem ask_noted (gates : List (Entry ι)) :
    (p.ask h.noted (s, es) gates).1 = (p.ask h s gates).1 ∧
      (p.ask h.noted (s, es) gates).2.1.1 = (p.ask h s gates).2.1 ∧
      (p.ask h.noted (s, es) gates).2.2 = (p.ask h s gates).2.2 := by
  induction gates generalizing p s es with
  | nil => exact ⟨rfl, rfl, rfl⟩
  | cons e gates ih =>
    -- the gate says the same with and without noting
    rcases hs : h.screen e.gate p.request s with ⟨s', err | resp | resp⟩
    · rw [ask_of_error hs, ask_of_error (Hooks.screen_noted hs es)]
      exact ⟨rfl, rfl, rfl⟩
    · rw [ask_of_admission hs, ask_of_admission (Hooks.screen_noted hs es)]
      exact ih _ _ _
    · rw [ask_of_answer hs, ask_of_answer (Hooks.screen_noted hs es)]
      exact ⟨rfl, rfl, rfl⟩

/-- To note the events of a walk through the chain does not change it. -/
theorem process_noted :
    (p.process h.noted (s, es)).1 = (p.process h s).1 ∧
      (p.process h.noted (s, es)).2.1.1 = (p.process h s).2.1 ∧
      (p.process h.noted (s, es)).2.2 = (p.process h s).2.2 :=
  p.ask_noted h s es _

/-- Nor does it change the replacement of a target. -/
theorem retarget_noted (u : Uri) :
    (p.retarget h.noted (s, es) u).1.1 = (p.retarget h s u).1 ∧
      (p.retarget h.noted (s, es) u).2 = (p.retarget h s u).2 := by
  unfold retarget
  induction p.passed generalizing s es u with
  | nil => exact ⟨rfl, rfl⟩
  | cons e gates ih =>
    rcases hs : h.retarget e.gate p.request u s with ⟨s', err | v⟩
    · rw [retargetBy_of_error hs, retargetBy_of_error (Hooks.retarget_noted hs es)]
      exact ⟨rfl, rfl⟩
    · rw [retargetBy_of_ok hs, retargetBy_of_ok (Hooks.retarget_noted hs es)]
      exact ih _ _ _

/-- Nor what a request does that leaves. -/
theorem leave_noted : (p.leave h.noted (s, es)).1 = p.leave h s := by
  unfold leave
  induction p.passed.reverse generalizing s es with
  | nil => rfl
  | cons e gates ih => exact ih _ _

/-- Those that have admitted the request are told, the last one first. -/
theorem leave_calls :
    (p.leave h.noted (s, es)).2 =
      es ++ (p.passed.map (·.gate)).reverse.map (.settled · p.request p.outcome) := by
  unfold leave
  rw [← List.map_reverse]
  induction p.passed.reverse generalizing s es with
  | nil => simp
  | cons e gates ih =>
    rw [List.foldl_cons]
    exact (ih _ _).trans (by simp)

end Noted

end Pipeline

/-! ## Passages -/

/-- A request on its way, among what changes meanwhile. -/
structure Passage (ι σ : Type) where
  /-- The chain that later requests will find. -/
  chain : Chain ι
  pipeline : Pipeline ι
  /-- What the gates share, and what has happened to the request. -/
  state : σ × List (Event ι)

namespace Passage

/-- What has happened to the request. -/
def events (x : Passage ι σ) : List (Event ι) := x.state.2

/-- A request that has just come, and found a chain. -/
def enter (c : Chain ι) (r : Request) (s : σ) : Passage ι σ := ⟨c, .enter c r, (s, [])⟩

/-- A walk through the chain, from where the request stands. -/
def walk (h : Hooks ι σ) (x : Passage ι σ) :
    Pipeline ι × (σ × List (Event ι)) × Verdict := x.pipeline.process h.noted x.state

/-- What may happen before the request leaves. -/
inductive Step (h : Hooks ι σ) (x : Passage ι σ) : Passage ι σ → Prop where
  | edit {c : Chain ι} (e : x.chain.Edit c) : Step h x { x with chain := c }
  /-- Other requests change what the gates share. -/
  | others (s : σ) : Step h x { x with state := (s, x.events) }
  | process : Step h x { x with pipeline := (x.walk h).1, state := (x.walk h).2.1 }
  | retarget (u : Uri) : Step h x { x with state := (x.pipeline.retarget h.noted x.state u).1 }
  | complete (o : Outcome) :
      Step h x { x with
        pipeline := x.pipeline.complete o
        state := (x.state.1, x.events ++ [.completed o]) }

/-- What a request can come to, that has found a chain. -/
inductive Reached (h : Hooks ι σ) (c : Chain ι) (r : Request) : Passage ι σ → Prop where
  | enter (s : σ) : Reached h c r (enter c r s)
  | step {x y : Passage ι σ} (before : Reached h c r x) (step : Step h x y) : Reached h c r y

end Passage

/-! ## Where a request stands -/

/-- What has happened to a request tells where it stands. -/
structure Kept (c : Chain ι) (r : Request) (p : Pipeline ι) (es : List (Event ι)) : Prop where
  entries_eq : p.entries = c.entries
  request_eq : p.request = r
  admitted_le : p.admitted ≤ c.entries.length
  admissions_eq : admissions es = p.passed.map (·.gate)
  outcome_eq : p.outcome = lastOutcome es
  orderly : Orderly (c.entries.map (·.gate)) r es

namespace Kept

variable {c : Chain ι} {r : Request} {p : Pipeline ι} {es : List (Event ι)}

/-- The gates that have admitted the request are the first ones of the chain. -/
theorem admissions_take (k : Kept c r p es) :
    admissions es = (c.entries.map (·.gate)).take p.admitted := by
  rw [k.admissions_eq, Pipeline.passed, k.entries_eq, List.map_take]

theorem length_admissions (k : Kept c r p es) : (admissions es).length = p.admitted := by
  rw [k.admissions_take, List.length_take, List.length_map]
  exact Nat.min_eq_left k.admitted_le

/-- The gate to be asked next may be asked. -/
theorem fits_screened (k : Kept c r p es) {e : Entry ι} {rest : List (Entry ι)}
    (hrest : p.entries.drop p.admitted = e :: rest) (v : Verdict) :
    (Event.screened e.gate p.request v).Fits (c.entries.map (·.gate)) r es := by
  obtain ⟨-, hget, -, -⟩ := Pipeline.split_of_drop hrest
  refine ⟨k.request_eq, ?_⟩
  rw [k.length_admissions, List.getElem?_map, ← k.entries_eq, hget, Option.map_some]

/-- A gate that answers or fails has been asked, and the request stands where it stood. -/
theorem refuse (k : Kept c r p es) {e : Event ι} {o : Option Outcome}
    (hfits : e.Fits (c.entries.map (·.gate)) r es) (hnone : e.admission? = none)
    (ho : o = e.outcome?.or p.outcome) : Kept c r { p with outcome := o } (es ++ [e]) := by
  refine ⟨k.entries_eq, k.request_eq, k.admitted_le, ?_, ?_, k.orderly.snoc hfits⟩
  · rw [admissions_append, k.admissions_eq, admissions, List.filterMap_cons_none hnone]
    exact List.append_nil _
  · rw [lastOutcome_snoc, ← k.outcome_eq]
    exact ho

/-- A gate that admits the request comes to those that have admitted it. -/
theorem admitted (k : Kept c r p es) {e : Entry ι} {rest : List (Entry ι)}
    (hrest : p.entries.drop p.admitted = e :: rest) :
    Kept c r { p with admitted := p.admitted + 1 }
      (es ++ [.screened e.gate p.request (.ok none)]) := by
  obtain ⟨hle, -, -, htake⟩ := Pipeline.split_of_drop hrest
  refine ⟨k.entries_eq, k.request_eq, ?_, ?_, ?_, k.orderly.snoc (k.fits_screened hrest _)⟩
  · rw [← k.entries_eq]
    exact hle
  · show _ = (p.entries.take (p.admitted + 1)).map (·.gate)
    -- the gate behind the others is the last one now
    rw [htake, List.map_append, admissions_append, k.admissions_eq]
    rfl
  · rw [lastOutcome_snoc]
    exact k.outcome_eq

/-- The chain is walked through from where the request stands. -/
theorem ask (h : Hooks ι σ) (s : σ) {rest : List (Entry ι)} (k : Kept c r p es)
    (hrest : p.entries.drop p.admitted = rest) :
    Kept c r (p.ask h.noted (s, es) rest).1 (p.ask h.noted (s, es) rest).2.1.2 := by
  induction rest generalizing p s es with
  | nil => exact k
  | cons e rest ih =>
    -- only a gate that admits the request lets the walk go on
    rcases hs : h.screen e.gate p.request s with ⟨s', err | resp | resp⟩
    · rw [Pipeline.ask_of_error (Hooks.screen_noted hs es)]
      exact k.refuse (k.fits_screened hrest _) rfl rfl
    · rw [Pipeline.ask_of_admission (Hooks.screen_noted hs es)]
      obtain ⟨-, -, hdrop, -⟩ := Pipeline.split_of_drop hrest
      exact ih s' (k.admitted hrest) hdrop
    · rw [Pipeline.ask_of_answer (Hooks.screen_noted hs es)]
      exact k.refuse (k.fits_screened hrest _) rfl rfl

/-- The walk through the chain ends behind the last gate, or at the first one that does not admit the
    request, with what that one says. -/
theorem ask_verdict (h : Hooks ι σ) (s : σ) {rest : List (Entry ι)} (k : Kept c r p es)
    (hrest : p.entries.drop p.admitted = rest) :
    ((p.ask h.noted (s, es) rest).2.2 = .ok none ∧
      admissions (p.ask h.noted (s, es) rest).2.1.2 = c.entries.map (·.gate)) ∨
    ((p.ask h.noted (s, es) rest).2.2 ≠ .ok none ∧
      ∃ before g, (p.ask h.noted (s, es) rest).2.1.2 =
        before ++ [.screened g r (p.ask h.noted (s, es) rest).2.2]) := by
  induction rest generalizing p s es with
  | nil =>
    refine Or.inl ⟨rfl, ?_⟩
    show admissions es = _
    -- no gate is left, so all have admitted it
    rw [k.admissions_take, List.take_of_length_le]
    rw [List.length_map, ← k.entries_eq]
    exact List.drop_eq_nil_iff.mp hrest
  | cons e rest ih =>
    rcases hs : h.screen e.gate p.request s with ⟨s', err | resp | resp⟩
    · rw [Pipeline.ask_of_error (Hooks.screen_noted hs es), k.request_eq]
      exact Or.inr ⟨nofun, es, e.gate, rfl⟩
    · rw [Pipeline.ask_of_admission (Hooks.screen_noted hs es)]
      obtain ⟨-, -, hdrop, -⟩ := Pipeline.split_of_drop hrest
      exact ih s' (k.admitted hrest) hdrop
    · rw [Pipeline.ask_of_answer (Hooks.screen_noted hs es), k.request_eq]
      exact Or.inr ⟨nofun, es, e.gate, rfl⟩

/-- Gates that replace a target are called one after the other, up to the first that fails. -/
theorem retargetBy_events (h : Hooks ι σ) (s : σ) (es : List (Event ι)) (r : Request) (u : Uri)
    (gates : List (Entry ι)) :
    ∃ n, (Pipeline.retargetBy h.noted r (s, es) u gates).1.2 =
        es ++ ((gates.map (·.gate)).take n).map (.retargeted · r) ∧
      ∀ v, (Pipeline.retargetBy h.noted r (s, es) u gates).2 = .ok v → n = gates.length := by
  induction gates generalizing s es u with
  | nil => exact ⟨0, by simp [Pipeline.retargetBy], fun _ _ => rfl⟩
  | cons e gates ih =>
    rcases hs : h.retarget e.gate r u s with ⟨s', err | v⟩
    · rw [Pipeline.retargetBy_of_error (Hooks.retarget_noted hs es)]
      exact ⟨1, by simp, nofun⟩
    · rw [Pipeline.retargetBy_of_ok (Hooks.retarget_noted hs es)]
      obtain ⟨n, hcalls, hall⟩ := ih s' (es ++ [.retargeted e.gate r]) v
      exact ⟨n + 1, by rw [hcalls]; simp, fun v hv => congrArg (· + 1) (hall v hv)⟩

/-- What is called when the target is replaced. -/
theorem retarget_events (k : Kept c r p es) (h : Hooks ι σ) (s : σ) (u : Uri) :
    ∃ n, (p.retarget h.noted (s, es) u).1.2 =
        es ++ ((admissions es).take n).map (.retargeted · r) ∧
      ∀ v, (p.retarget h.noted (s, es) u).2 = .ok v → n = (admissions es).length := by
  have hcalls := retargetBy_events h s es p.request u p.passed
  rw [← List.length_map (f := (·.gate)), ← k.admissions_eq, k.request_eq] at hcalls
  rwa [Pipeline.retarget, k.request_eq]

/-- Gates that have admitted the request may replace its target. -/
theorem retargeted (k : Kept c r p es) {gates : List ι} (hgates : ∀ g ∈ gates, g ∈ admissions es) :
    Kept c r p (es ++ gates.map (.retargeted · r)) := by
  -- a replacement is no admission and gives no outcome
  have hnone {β : Type} (f : Event ι → Option β) (hf : ∀ g, f (.retargeted g r) = none) :
      (gates.map (.retargeted · r)).filterMap f = [] := by
    refine List.filterMap_eq_nil_iff.mpr fun e he => ?_
    obtain ⟨g, -, rfl⟩ := List.mem_map.mp he
    exact hf g
  refine ⟨k.entries_eq, k.request_eq, k.admitted_le, ?_, ?_, k.orderly.append ?_⟩
  · rw [admissions_append, k.admissions_eq, admissions, hnone _ fun _ => rfl, List.append_nil]
  · rw [lastOutcome, List.filterMap_append, hnone _ fun _ => rfl, List.append_nil]
    exact k.outcome_eq
  · intro e he before hbefore
    obtain ⟨g, hg, rfl⟩ := List.mem_map.mp he
    exact ⟨rfl, (hbefore.filterMap _).subset (hgates g hg)⟩

theorem leave_events (k : Kept c r p es) (h : Hooks ι σ) (s : σ) :
    (p.leave h.noted (s, es)).2 =
      es ++ (admissions es).reverse.map (.settled · r (lastOutcome es)) := by
  rw [p.leave_calls, ← k.admissions_eq, k.request_eq, k.outcome_eq]

/-- Of a request that has just come, nothing has happened. -/
theorem enter (c : Chain ι) (r : Request) : Kept c r (.enter c r) [] where
  entries_eq := rfl
  request_eq := rfl
  admitted_le := Nat.zero_le _
  admissions_eq := rfl
  outcome_eq := rfl
  orderly := orderly_nil _ _

end Kept

namespace Passage

variable {h : Hooks ι σ} {c : Chain ι} {r : Request} {x y : Passage ι σ}

/-- Whatever happens on the way keeps to what has happened. -/
theorem Step.kept (hs : Step h x y) (k : Kept c r x.pipeline x.events) :
    Kept c r y.pipeline y.events := by
  cases hs with
  | edit => exact k
  | others => exact k
  | process => exact k.ask h x.state.1 rfl
  | retarget u =>
    obtain ⟨n, hn, -⟩ := k.retarget_events h x.state.1 u
    show Kept c r x.pipeline (x.pipeline.retarget h.noted (x.state.1, x.events) u).1.2
    rw [hn]
    -- only those are called that have admitted it
    exact k.retargeted fun g hg => List.mem_of_mem_take hg
  | complete o =>
    exact k.refuse (e := .completed o) trivial rfl rfl

/-- All that a request can come to keeps to what has happened. -/
theorem Reached.kept (hx : Reached h c r x) : Kept c r x.pipeline x.events := by
  induction hx with
  | enter => exact Kept.enter c r
  | step _ hs ih => exact hs.kept ih

/-- Whatever gates do, and however requests are processed, retargeted and completed while chains are
    edited: a gate is asked only when all before it in the chain that was found have admitted the
    request, so that each admits it once at most and in order; only gates that have admitted it
    replace its target; and none is told how it has ended before it leaves.  A request that is let
    through has been admitted by all gates, and otherwise the last one asked has said what is said of
    it.  The target is replaced by those that have admitted the request, in order, up to the first
    that fails.  And when the request leaves, those that have admitted it are told, each once, the
    last one first, and all are told the last outcome. -/
theorem unwinds (hx : Reached h c r x) :
    (∀ before e after, x.events = before ++ e :: after →
      e.Fits (c.entries.map (·.gate)) r before) ∧
    admissions x.events <+: c.entries.map (·.gate) ∧
    ((x.walk h).2.2 = .ok none ∧ admissions (x.walk h).2.1.2 = c.entries.map (·.gate) ∨
      (x.walk h).2.2 ≠ .ok none ∧
        ∃ before g, (x.walk h).2.1.2 = before ++ [.screened g r (x.walk h).2.2]) ∧
    (∀ u, ∃ n, (x.pipeline.retarget h.noted x.state u).1.2 =
        x.events ++ ((admissions x.events).take n).map (.retargeted · r) ∧
      ∀ v, (x.pipeline.retarget h.noted x.state u).2 = .ok v → n = (admissions x.events).length) ∧
    (x.pipeline.leave h.noted x.state).2 =
      x.events ++ (admissions x.events).reverse.map (.settled · r (lastOutcome x.events)) := by
  have k := hx.kept
  refine ⟨k.orderly, ?_, k.ask_verdict h x.state.1 rfl, k.retarget_events h x.state.1,
    k.leave_events h x.state.1⟩
  rw [k.admissions_take]
  exact List.take_prefix _ _

/-- Gates that always say the same. -/
def candid : Hooks Verdict Unit where
  screen g _ s := (s, g)
  retarget _ _ u s := (s, .ok u)
  settle _ _ _ s := s

/-- A chain whose second gate turns every request away. -/
def turningAway : Chain Verdict :=
  ⟨[⟨"a", 0, "", .ok none⟩, ⟨"b", 1, "", .ok (some { status := 403 })⟩, ⟨"c", 2, "", .ok none⟩]⟩

/-- A request is turned away, the first gate of the chain is replaced, the request is processed again,
    and a network error is noted.  When it leaves, the one gate that has admitted it is told of
    that. -/
theorem unwinds_turnedAway : ∃ x, Reached candid turningAway {} x ∧
    x.events = [.screened (.ok none) {} (.ok none),
      .screened (.ok (some { status := 403 })) {} (.ok (some { status := 403 })),
      .screened (.ok (some { status := 403 })) {} (.ok (some { status := 403 })),
      .completed .networkError] ∧
    (x.pipeline.leave candid.noted x.state).2 =
      x.events ++ [.settled (.ok none) {} (some .networkError)] := by
  have hx := Reached.step (.step (.step (.step (.enter (h := candid) (c := turningAway) (r := {}) ())
    .process) (.edit (.upsert ⟨"a", 0, "", .error .io⟩))) .process) (.complete .networkError)
  exact ⟨_, hx, rfl, (unwinds hx).2.2.2.2⟩

end Passage

end Turnpike.Gate
