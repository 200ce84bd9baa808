/-
  Slots for requests in flight.

  Requests come and go, each on its way through the chain that it found; chains are edited, gates
  are built, time passes.  A limit on requests in flight counts those that it has admitted, for each
  token, and takes them off again when they end.  A slot that is not given back would be lost for
  good, and one that is given back twice would let too many pass.

  1. **Steps** (`Concourse.Step`).  One call of one gate is a step, so the calls for different
     requests follow each other in any order.  Walks through a chain, and the calls when a request
     leaves, are made up of such steps (`steps_process`, `steps_leave`).

  2. **What is held** (`held`).  The requests of a token that a gate has admitted and has not been
     told of since.  This is counted over the requests, without any look at the gate.  That a
     request stands elsewhere changes it by one or by nothing (`held_of_holds`, `held_of_idle`,
     `held_of_alike`).

  3. **Books** (`Books`).  The gate counts what it holds, this is never too much, and all that it
     holds is charged to some token.  There is one lemma for each thing that may happen to a
     request: it comes, it is admitted or refused, it changes without being counted otherwise, the
     gate is told of it, it goes.

  4. **The invariant** (`Concourse.Sound`).  Each step keeps the books, provided that no chain has
     the gate twice: otherwise the request would have been admitted twice and counted once.  The
     token that is given back is the one that was taken, since requests do not change on their way
     in what tokens are taken from (`token_age`).

  So no slot is lost and none is given twice (`slots_conserved`).
-/
import Turnpike.Proofs.Gate.Passage
import Turnpike.Proofs.Gate.Plaza
import Turnpike.Proofs.Lists
import Turnpike.Proofs.Result
import Turnpike.Proofs.Traffic.Connections

namespace Turnpike.Gate

open Turnpike.Json Turnpike.Http Turnpike.Traffic

/-! ## Requests on a plaza -/

/-- A request on its way, or leaving. -/
structure Visit where
  pipeline : Pipeline Serial
  /-- Has it ended, so that the gates that have admitted it are being told? -/
  leaving : Bool := false

/-- Has the gate admitted the request, and not been told since that it has ended? -/
def Visit.holds (n : Serial) (v : Visit) : Bool := (v.pipeline.passed.map (·.gate)).contains n

/-- Is the request charged to a token? -/
def Visit.charged (payer : Payer) (token : String) (v : Visit) : Bool :=
  (payer.token v.pipeline.request).toOption == some token

/-- The number of requests of a token that a gate has admitted and that have not ended. -/
def held (n : Serial) (payer : Payer) (vs : List Visit) (token : String) : Nat :=
  vs.countP fun v => v.holds n && v.charged payer token

/-! ## The books of a gate -/

/-- What a gate says of a request, and what becomes of its counts. -/
theorem FlightLimit.screen_of_counts {g : FlightLimit} {r : Request} {token : String}
    {held : String → Nat} (h : g.connections.Counts held) (ht : g.payer.token r = .ok token) :
    g.screen r =
      if held token < g.connections.limit then
        ({ g with
            connections := g.connections.set token (held token + 1) (g.connections.total + 1) },
          .ok none)
      else (g, .ok (some (.tooMany "connection limit reached" none))) := by
  rw [FlightLimit.screen, ht, Payer.charge]
  simp only [Connections.acquire?_one h]
  by_cases hroom : held token < g.connections.limit
  · simp only [if_pos hroom]
  · simp only [if_neg hroom]

/-- What a gate counts is what it has admitted and not been told of since; that is never too much,
    and each such request is charged to some token. -/
structure Books (n : Serial) (g : FlightLimit) (vs : List Visit) : Prop where
  limit_eq : g.connections.limit = g.settings.connections
  counts : g.connections.Counts (held n g.payer vs)
  bounded : ∀ token, held n g.payer vs token ≤ g.settings.connections
  charged : ∀ v ∈ vs, v.holds n = true → ∃ token, g.payer.token v.pipeline.request = .ok token

section Books

variable {n : Serial} {g : FlightLimit} {payer : Payer} {v v' : Visit}
  {vs before after : List Visit} {token : String}

/-- A token has something held when there is a request that is charged to it. -/
theorem held_pos_iff : 0 < held n payer vs token ↔
    ∃ v ∈ vs, v.holds n = true ∧ payer.token v.pipeline.request = .ok token := by
  have hcharged (v : Visit) : v.charged payer token = true ↔
      payer.token v.pipeline.request = .ok token := by
    unfold Visit.charged
    cases payer.token v.pipeline.request <;> simp [Except.toOption]
  simp only [held, List.countP_pos_iff, Bool.and_eq_true, hcharged]

/-- A request that the gate has not admitted counts for nothing. -/
theorem held_of_idle (hv : v.holds n = false) :
    held n payer (before ++ v :: after) = held n payer (before ++ after) := by
  funext token
  simp [held, hv]

/-- A request that the gate has admitted counts for its token. -/
theorem held_of_holds (hv : v.holds n = true)
    (ht : payer.token v.pipeline.request = .ok token) :
    held n payer (before ++ v :: after) = Function.update (held n payer (before ++ after)) token
      (held n payer (before ++ after) token + 1) := by
  funext other
  have hcharged : v.charged payer other = (token == other) := by
    simp [Visit.charged, ht, Except.toOption]
  -- it counts for its own token, and for no other
  by_cases heq : other = token
  · subst heq
    simp [held, hv, hcharged]
    omega
  · rw [Function.update_of_ne heq]
    simp [held, hcharged, Ne.symm heq]

/-- A request in the place of another that is counted alike changes nothing. -/
theorem held_of_alike (hv : v'.holds n = v.holds n)
    (ht : payer.token v'.pipeline.request = payer.token v.pipeline.request) :
    held n payer (before ++ v' :: after) = held n payer (before ++ v :: after) := by
  funext token
  have hcharged : v'.charged payer token = v.charged payer token := by
    unfold Visit.charged
    rw [ht]
  unfold held
  rw [List.countP_append, List.countP_append, List.countP_cons, List.countP_cons, hv, hcharged]

namespace Books

/-- Books of a gate that no request has been admitted by. -/
theorem fresh {s : FlightSettings} (h : FlightLimit.make s = .ok g)
    (hidle : ∀ v ∈ vs, v.holds n = false) : Books n g vs := by
  have hheld : held n g.payer vs = fun _ => 0 := by
    funext token
    refine List.countP_eq_zero.mpr fun v hv => ?_
    simp [hidle v hv]
  unfold FlightLimit.make at h
  split at h
  case isTrue => cases h
  case isFalse =>
    obtain ⟨payer, -, hg⟩ := Result.bind_eq_ok.mp h
    cases hg
    refine ⟨rfl, ?_, fun token => ?_, fun v hv hholds => ?_⟩
    · rw [hheld]
      exact Connections.counts_make _
    · rw [hheld]
      exact Nat.zero_le _
    · rw [hidle v hv] at hholds
      cases hholds

/-- Books depend on what is held. -/
theorem of_held {vs' : List Visit} (k : Books n g vs)
    (hheld : held n g.payer vs' = held n g.payer vs)
    (hcharged : ∀ v ∈ vs', v.holds n = true → ∃ token, g.payer.token v.pipeline.request = .ok token) :
    Books n g vs' := by
  refine ⟨k.limit_eq, ?_, ?_, hcharged⟩
  · rw [hheld]
    exact k.counts
  · rw [hheld]
    exact k.bounded

/-- A request in the place of another that counts for the same token or, like that one, for none. -/
theorem replace (k : Books n g (before ++ v :: after)) (hv : v'.holds n = v.holds n)
    (ht : g.payer.token v'.pipeline.request = g.payer.token v.pipeline.request) :
    Books n g (before ++ v' :: after) := by
  refine k.of_held (held_of_alike hv ht) (Lists.forall_mem_replaced k.charged fun hholds => ?_)
  rw [ht]
  exact k.charged v (by simp) (hv ▸ hholds)

/-- A request that the gate has not admitted may come. -/
theorem add (k : Books n g (before ++ after)) (hv : v.holds n = false) :
    Books n g (before ++ v :: after) := by
  refine k.of_held (held_of_idle hv) ?_
  have hcharged := k.charged
  rw [List.forall_mem_append] at hcharged ⊢
  refine ⟨hcharged.1, List.forall_mem_cons.mpr ⟨fun hholds => ?_, hcharged.2⟩⟩
  rw [hv] at hholds
  cases hholds

theorem drop (k : Books n g (before ++ v :: after)) (hv : v.holds n = false) :
    Books n g (before ++ after) :=
  k.of_held (held_of_idle hv).symm (Lists.forall_mem_without k.charged)

/-- A gate admits a request exactly when it can be charged to a token that has room for it. -/
theorem admits_iff (k : Books n g vs) (r : Request) : (g.screen r).2 = .ok none ↔
    ∃ token, g.payer.token r = .ok token ∧ held n g.payer vs token < g.settings.connections := by
  cases ht : g.payer.token r with
  | error e => simp [FlightLimit.screen, ht]
  | ok token =>
    rw [FlightLimit.screen_of_counts k.counts ht, k.limit_eq]
    split
    case isTrue hroom => simp [hroom]
    case isFalse hfull => simp [hfull]

/-- A gate that does not admit a request counts as before. -/
theorem screen_of_refused (k : Books n g vs) {r : Request} (h : (g.screen r).2 ≠ .ok none) :
    (g.screen r).1 = g := by
  cases ht : g.payer.token r with
  | error e => rw [FlightLimit.screen, ht]
  | ok token =>
    rw [FlightLimit.screen_of_counts k.counts ht] at h ⊢
    split at h
    case isTrue => exact absurd rfl h
    case isFalse hfull => rw [if_neg hfull]

/-- A request that is admitted is counted. -/
theorem admitted (k : Books n g (before ++ after)) (hv : v.holds n = true)
    (h : (g.screen v.pipeline.request).2 = .ok none) :
    Books n (g.screen v.pipeline.request).1 (before ++ v :: after) := by
  obtain ⟨token, ht, hroom⟩ := (k.admits_iff _).mp h
  have hheld : held n g.payer (before ++ v :: after) = _ := held_of_holds hv ht
  rw [FlightLimit.screen_of_counts k.counts ht, k.limit_eq, if_pos hroom]
  refine ⟨k.limit_eq, ?_, fun other => ?_, ?_⟩
  · show (g.connections.set token _ _).Counts (held n g.payer (before ++ v :: after))
    rw [hheld]
    exact k.counts.set token _ (by omega)
  · show held n g.payer (before ++ v :: after) other ≤ g.settings.connections
    rw [hheld]
    -- its own token had room, and the others count as before
    by_cases heq : other = token
    · subst heq
      rw [Function.update_self]
      omega
    · rw [Function.update_of_ne heq]
      exact k.bounded other
  · have hcharged := k.charged
    rw [List.forall_mem_append] at hcharged ⊢
    exact ⟨hcharged.1, List.forall_mem_cons.mpr ⟨fun _ => ⟨token, ht⟩, hcharged.2⟩⟩

/-- A request that the gate is told of is counted no longer. -/
theorem settle (k : Books n g (before ++ v :: after)) (hv : v.holds n = true) :
    Books n (g.settle v.pipeline.request) (before ++ after) := by
  obtain ⟨token, ht⟩ := k.charged v (by simp) hv
  have hheld : held n g.payer (before ++ v :: after) = _ := held_of_holds hv ht
  have hsublist : (before ++ after).Sublist (before ++ v :: after) :=
    (List.sublist_cons_self v after).append_left before
  rw [FlightLimit.settle, ht]
  refine ⟨(Connections.limit_release _ _ _).trans k.limit_eq, ?_, fun other => ?_,
    Lists.forall_mem_without k.charged⟩
  · have hcounts := k.counts
    rw [hheld] at hcounts
    exact hcounts.release
  · exact Nat.le_trans hsublist.countP_le (k.bounded other)

end Books

end Books

/-! ## Gates, chains and requests -/

/-- Gates with their chains and with the requests on their way. -/
structure Concourse where
  plaza : Plaza := {}
  chains : List (Chain Serial) := []
  visits : List Visit := []

/-- When the last gate has been told, the others are left. -/
theorem Pipeline.passed_of_snoc {ι : Type} {p : Pipeline ι} {rest : List (Entry ι)} {e : Entry ι}
    (h : p.passed = rest ++ [e]) : { p with admitted := rest.length }.passed = rest := by
  have hinitial : rest <+: p.entries :=
    (h ▸ List.prefix_append rest [e]).trans (List.take_prefix _ _)
  exact (List.prefix_iff_eq_take.mp hinitial).symm

namespace Concourse

/-- What is done at once: one call of a gate for a request, or a change elsewhere.  The gates of a
    chain have been built, and none has the gate `n` twice. -/
inductive Step (n : Serial) (x : Concourse) : Concourse → Prop where
  | build {k : Kind} {settings : Json} {g : Instance}
      (built : k.make settings x.plaza.now = .ok g) :
      Step n x { x with plaza := (x.plaza.build g).1 }
  /-- Time passes, and things are counted and noted. -/
  | ambient (a : Ambient) : Step n x { x with plaza := { x.plaza with toAmbient := a } }
  | found : Step n x { x with chains := .empty :: x.chains }
  | edit {before after : List (Chain Serial)} {c d : Chain Serial}
      (chains : x.chains = before ++ c :: after) (edited : c.Edit d)
      (built : ∀ e ∈ d.entries, e.gate < x.plaza.gates.size)
      (once : (d.entries.map (·.gate)).count n ≤ 1) :
      Step n x { x with chains := before ++ d :: after }
  | close {before after : List (Chain Serial)} {c : Chain Serial}
      (chains : x.chains = before ++ c :: after) : Step n x { x with chains := before ++ after }
  /-- A request comes and finds a chain. -/
  | enter {c : Chain Serial} (found : c ∈ x.chains) (r : Request) :
      Step n x { x with visits := ⟨.enter c r, false⟩ :: x.visits }
  /-- The next gate of the chain is asked. -/
  | ask {before after : List Visit} {p : Pipeline Serial} {e : Entry Serial}
      {rest : List (Entry Serial)} (visits : x.visits = before ++ ⟨p, false⟩ :: after)
      (next : p.entries.drop p.admitted = e :: rest) :
      Step n x { x with
        plaza := (p.ask Plaza.hooks x.plaza [e]).2.1
        visits := before ++ ⟨(p.ask Plaza.hooks x.plaza [e]).1, false⟩ :: after }
  /-- A gate that has admitted a request replaces a target. -/
  | retarget {v : Visit} (there : v ∈ x.visits) {e : Entry Serial} (passed : e ∈ v.pipeline.passed)
      (u : Uri) :
      Step n x { x with plaza := (Plaza.hooks.retarget e.gate v.pipeline.request u x.plaza).1 }
  | complete {before after : List Visit} {p : Pipeline Serial}
      (visits : x.visits = before ++ ⟨p, false⟩ :: after) (o : Outcome) :
      Step n x { x with visits := before ++ ⟨p.complete o, false⟩ :: after }
  /-- A request has been under way for some time. -/
  | age {before after : List Visit} {p : Pipeline Serial} {leaving : Bool}
      (visits : x.visits = before ++ ⟨p, leaving⟩ :: after) (nanos : Nat) :
      Step n x { x with
        visits := before ++ ⟨{ p with request := { p.request with age := nanos } }, leaving⟩ :: after }
  /-- A request has ended, completed or not. -/
  | leave {before after : List Visit} {p : Pipeline Serial}
      (visits : x.visits = before ++ ⟨p, false⟩ :: after) :
      Step n x { x with visits := before ++ ⟨p, true⟩ :: after }
  /-- The last gate that has admitted the request, and has not been told, is told. -/
  | tell {before after : List Visit} {p : Pipeline Serial} {e : Entry Serial}
      {rest : List (Entry Serial)} (visits : x.visits = before ++ ⟨p, true⟩ :: after)
      (last : p.passed = rest ++ [e]) :
      Step n x { x with
        plaza := Plaza.hooks.settle e.gate p.request p.outcome x.plaza
        visits := before ++ ⟨{ p with admitted := rest.length }, true⟩ :: after }
  /-- All gates have been told. -/
  | gone {before after : List Visit} {p : Pipeline Serial}
      (visits : x.visits = before ++ ⟨p, true⟩ :: after) (told : p.passed = []) :
      Step n x { x with visits := before ++ after }

/-- Any number of steps. -/
abbrev Steps (n : Serial) : Concourse → Concourse → Prop := Relation.ReflTransGen (Step n)

/-- What can come about from the start. -/
def Reached (n : Serial) (x : Concourse) : Prop := Steps n {} x

/-! ## Whole operations -/

variable {n : Serial}

/-- To process a request is to ask one gate after the other. -/
theorem steps_process {x : Concourse} {before after : List Visit} {p : Pipeline Serial}
    (visits : x.visits = before ++ ⟨p, false⟩ :: after) :
    Steps n x { x with
      plaza := (p.process Plaza.hooks x.plaza).2.1
      visits := before ++ ⟨(p.process Plaza.hooks x.plaza).1, false⟩ :: after } := by
  obtain ⟨plaza, chains, vs⟩ := x
  obtain rfl : vs = _ := visits
  unfold Pipeline.process
  generalize hrest : p.entries.drop p.admitted = rest
  -- on the gates that are left to be asked
  induction rest generalizing p plaza with
  | nil => exact .refl
  | cons e rest ih =>
    have hstep : Step n ⟨plaza, chains, before ++ ⟨p, false⟩ :: after⟩ _ := .ask rfl hrest
    rcases hs : Plaza.hooks.screen e.gate p.request plaza with ⟨plaza', err | resp | resp⟩
    · rw [Pipeline.ask_of_error hs] at hstep ⊢
      exact .single hstep
    · rw [Pipeline.ask_of_admission hs] at hstep ⊢
      obtain ⟨-, -, hdrop, -⟩ := Pipeline.split_of_drop hrest
      exact .head hstep (ih plaza' hdrop)
    · rw [Pipeline.ask_of_answer hs] at hstep ⊢
      exact .single hstep

/-- When a request leaves, one gate after the other is told. -/
theorem steps_leave {x : Concourse} {before after : List Visit} {p : Pipeline Serial}
    (visits : x.visits = before ++ ⟨p, false⟩ :: after) :
    Steps n x { x with
      plaza := p.leave Plaza.hooks x.plaza
      visits := before ++ after } := by
  obtain ⟨plaza, chains, vs⟩ := x
  obtain rfl : vs = _ := visits
  refine .head (.leave rfl) ?_
  unfold Pipeline.leave
  generalize hgates : p.passed = gates
  -- on those that are left to be told, from the last one
  induction gates using List.reverseRecOn generalizing p plaza with
  | nil => exact .single (.gone rfl hgates)
  | append_singleton rest e ih =>
    rw [List.reverse_append, List.reverse_singleton, List.singleton_append, List.foldl_cons]
    refine .head (.tell rfl hgates) ?_
    exact ih _ (Pipeline.passed_of_snoc hgates)

end Concourse

/-! ## Where a request stands -/

/-- Gates that have been built, the gate `n` once at most. -/
structure Usable (n : Serial) (size : Nat) (es : List (Entry Serial)) : Prop where
  built : ∀ e ∈ es, e.gate < size
  once : (es.map (·.gate)).count n ≤ 1

theorem Usable.mono {n : Serial} {size size' : Nat} {es : List (Entry Serial)}
    (h : Usable n size es) (hle : size ≤ size') : Usable n size' es :=
  ⟨fun e he => Nat.lt_of_lt_of_le (h.built e he) hle, h.once⟩

/-- The gate is not among those before it. -/
theorem Usable.not_mem {n : Serial} {size : Nat} {es passed rest : List (Entry Serial)}
    {e : Entry Serial} (h : Usable n size es) (hes : es = passed ++ e :: rest)
    (he : e.gate = n) : n ∉ passed.map (·.gate) := by
  -- it is counted at its place, so not before it
  have honce := h.once
  rw [hes, List.map_append, List.map_cons, List.count_append, he, List.count_cons_self] at honce
  intro hmem
  have hpos := List.count_pos_iff.mpr hmem
  omega

/-- A gate does not hold a request that it has not admitted. -/
theorem Visit.holds_eq_false {n : Serial} {v : Visit} :
    v.holds n = false ↔ n ∉ v.pipeline.passed.map (·.gate) := by
  simp [holds]

/-- One more gate has admitted the request. -/
theorem Visit.holds_snoc {n : Serial} {v v' : Visit} {e : Entry Serial}
    (h : v'.pipeline.passed = v.pipeline.passed ++ [e]) :
    v'.holds n = (v.holds n || n == e.gate) := by
  unfold holds
  rw [h, List.map_append, List.contains_append, List.map_singleton, List.contains_cons,
    List.contains_nil, Bool.or_false]

theorem token_age (payer : Payer) (r : Request) (nanos : Nat) :
    payer.token { r with age := nanos } = payer.token r := by
  cases payer <;> rfl

/-- What is said of a request by one gate decides where it stands then. -/
theorem Pipeline.ask_one {ι σ : Type} (h : Hooks ι σ) (p : Pipeline ι) (s : σ) (e : Entry ι) :
    (p.ask h s [e]).2.1 = (h.screen e.gate p.request s).1 ∧
      ((h.screen e.gate p.request s).2 = .ok none ∧
          (p.ask h s [e]).1 = { p with admitted := p.admitted + 1 } ∨
        (h.screen e.gate p.request s).2 ≠ .ok none ∧
          ∃ o, (p.ask h s [e]).1 = { p with outcome := o }) := by
  rcases hs : h.screen e.gate p.request s with ⟨s', err | resp | resp⟩
  · rw [ask_of_error hs]
    exact ⟨rfl, .inr ⟨by simp, p.outcome, rfl⟩⟩
  · rw [ask_of_admission hs]
    exact ⟨rfl, .inl ⟨rfl, rfl⟩⟩
  · rw [ask_of_answer hs]
    exact ⟨rfl, .inr ⟨by simp, _, rfl⟩⟩

/-! ## Steps keep the books -/

/-- Chains and requests have gates that have been built, the gate `n` once at most, and if that one is
    a limit, its books are kept. -/
structure Concourse.Sound (n : Serial) (x : Concourse) : Prop where
  chains : ∀ c ∈ x.chains, Usable n x.plaza.gates.size c.entries
  visits : ∀ v ∈ x.visits, Usable n x.plaza.gates.size v.pipeline.entries
  books : ∀ g, x.plaza.gate? n = some (.flight g) → Books n g x.visits

namespace Concourse

variable {n : Serial} {x y : Concourse}

/-- A request that stands elsewhere, and gates that have been called. -/
theorem Sound.called (k : Sound n x) {plaza : Plaza} {before after : List Visit} {v v' : Visit}
    (visits : x.visits = before ++ v :: after) (hsize : plaza.gates.size = x.plaza.gates.size)
    (hentries : v'.pipeline.entries = v.pipeline.entries)
    (hbooks : ∀ g, plaza.gate? n = some (.flight g) → Books n g (before ++ v' :: after)) :
    Sound n { x with plaza := plaza, visits := before ++ v' :: after } := by
  have hvisits := visits ▸ k.visits
  refine ⟨?_, ?_, hbooks⟩
  · rw [hsize]
    exact k.chains
  · rw [hsize]
    refine Lists.forall_mem_replaced hvisits ?_
    rw [hentries]
    exact hvisits v (by simp)

/-- A request that is counted as before. -/
theorem Sound.replaced (k : Sound n x) {before after : List Visit} {v v' : Visit}
    (visits : x.visits = before ++ v :: after)
    (hentries : v'.pipeline.entries = v.pipeline.entries) (hv : v'.holds n = v.holds n)
    (ht : ∀ payer : Payer, payer.token v'.pipeline.request = payer.token v.pipeline.request) :
    Sound n { x with visits := before ++ v' :: after } :=
  k.called visits rfl hentries fun g hg => (visits ▸ k.books g hg).replace hv (ht _)

/-- A gate is put up. -/
theorem Sound.build (k : Sound n x) {kind : Kind} {settings : Json} {i : Instance}
    (built : kind.make settings x.plaza.now = .ok i) :
    Sound n { x with plaza := (x.plaza.build i).1 } := by
  have hsize : x.plaza.gates.size ≤ (x.plaza.gates.push i).size := by simp
  refine ⟨fun c hc => (k.chains c hc).mono hsize, fun v hv => (k.visits v hv).mono hsize,
    fun g hg => ?_⟩
  have hpush : (x.plaza.gates.push i)[n]? = some (.flight g) := hg
  rw [Array.getElem?_push] at hpush
  split at hpush
  case isFalse => exact k.books g hpush
  case isTrue hn =>
    -- nobody has been to a gate that is new
    have hidle (v : Visit) (hv : v ∈ x.visits) : v.holds n = false := by
      refine Visit.holds_eq_false.mpr fun hmem => ?_
      obtain ⟨e, he, hen⟩ := List.mem_map.mp hmem
      have hlt := (k.visits v hv).built e (List.mem_of_mem_take he)
      rw [hen, hn] at hlt
      exact Nat.lt_irrefl _ hlt
    cases hpush
    cases kind with
    | flight =>
      obtain ⟨s, -, hs⟩ := Result.bind_eq_ok.mp built
      obtain ⟨g', hg', heq⟩ := Result.bind_eq_ok.mp hs
      cases heq
      exact Books.fresh hg' hidle
    | rate | retarget | breaker =>
      obtain ⟨s, -, hs⟩ := Result.bind_eq_ok.mp built
      obtain ⟨g', -, heq⟩ := Result.bind_eq_ok.mp hs
      cases heq
    | probe =>
      obtain ⟨s, -, hs⟩ := Result.bind_eq_ok.mp built
      cases hs

/-- A gate is asked about a request. -/
theorem Sound.ask (k : Sound n x) {before after : List Visit} {p : Pipeline Serial}
    {e : Entry Serial} {rest : List (Entry Serial)} (visits : x.visits = before ++ ⟨p, false⟩ :: after)
    (next : p.entries.drop p.admitted = e :: rest) :
    Sound n { x with
      plaza := (p.ask Plaza.hooks x.plaza [e]).2.1
      visits := before ++ ⟨(p.ask Plaza.hooks x.plaza [e]).1, false⟩ :: after } := by
  obtain ⟨-, -, -, htake⟩ := Pipeline.split_of_drop next
  obtain ⟨hplaza, hcase⟩ := p.ask_one Plaza.hooks x.plaza e
  have hsize : (x.plaza.screen e.gate p.request).1.gates.size = x.plaza.gates.size := by
    rw [Plaza.gates_screen, Array.size_modify]
  have husable : Usable n x.plaza.gates.size p.entries := k.visits ⟨p, false⟩ (by simp [visits])
  have hsplit : p.entries = p.passed ++ e :: rest := by
    rw [← next]
    exact (List.take_append_drop _ _).symm
  rw [hplaza]
  obtain ⟨hadmits, hp⟩ | ⟨hrefuses, o, hp⟩ := hcase
  · have hsnoc : Visit.holds n ⟨{ p with admitted := p.admitted + 1 }, false⟩ =
        (Visit.holds n ⟨p, false⟩ || n == e.gate) := Visit.holds_snoc htake
    rw [hp]
    refine k.called visits hsize rfl fun g' hg' => ?_
    obtain ⟨g, hg, rfl⟩ := Plaza.flight_of_screen hg'
    have hbooks := visits ▸ k.books g hg
    split
    case isTrue hn =>
      -- the request comes to those that the gate holds
      subst hn
      have hidle : Visit.holds e.gate ⟨p, false⟩ = false :=
        Visit.holds_eq_false.mpr (husable.not_mem hsplit rfl)
      have hholds : Visit.holds e.gate ⟨{ p with admitted := p.admitted + 1 }, false⟩ = true := by
        simp [hsnoc]
      exact (hbooks.drop hidle).admitted hholds ((Plaza.screen_flight hg _).symm.trans hadmits)
    case isFalse hn =>
      -- another gate has admitted it
      refine hbooks.replace ?_ rfl
      rw [hsnoc, beq_false_of_ne (Ne.symm hn), Bool.or_false]
  · rw [hp]
    refine k.called visits hsize rfl fun g' hg' => ?_
    obtain ⟨g, hg, rfl⟩ := Plaza.flight_of_screen hg'
    have hbooks := visits ▸ k.books g hg
    split
    case isTrue hn =>
      subst hn
      rw [hbooks.screen_of_refused fun hadmits =>
        hrefuses ((Plaza.screen_flight hg _).trans hadmits)]
      exact hbooks.replace rfl rfl
    case isFalse => exact hbooks.replace rfl rfl

/-- A gate is told that a request has ended. -/
theorem Sound.tell (k : Sound n x) {before after : List Visit} {p : Pipeline Serial}
    {e : Entry Serial} {rest : List (Entry Serial)} (visits : x.visits = before ++ ⟨p, true⟩ :: after)
    (last : p.passed = rest ++ [e]) :
    Sound n { x with
      plaza := x.plaza.settle e.gate p.request p.outcome
      visits := before ++ ⟨{ p with admitted := rest.length }, true⟩ :: after } := by
  have hsize : (x.plaza.settle e.gate p.request p.outcome).gates.size = x.plaza.gates.size := by
    rw [Plaza.gates_settle, Array.size_modify]
  have husable : Usable n x.plaza.gates.size p.entries := k.visits ⟨p, true⟩ (by simp [visits])
  have hsplit : p.entries = rest ++ e :: p.entries.drop p.admitted := by
    rw [List.append_cons, ← last]
    exact (List.take_append_drop _ _).symm
  have hrest := Pipeline.passed_of_snoc last
  have hsnoc : Visit.holds n ⟨p, true⟩ =
      (Visit.holds n ⟨{ p with admitted := rest.length }, true⟩ || n == e.gate) :=
    Visit.holds_snoc (last.trans (congrArg (· ++ [e]) hrest.symm))
  refine k.called visits hsize rfl fun g' hg' => ?_
  obtain ⟨g, hg, rfl⟩ := Plaza.flight_of_settle hg'
  have hbooks := visits ▸ k.books g hg
  split
  case isTrue hn =>
    subst hn
    -- the gate is told, and holds the request no longer
    have hholds : Visit.holds e.gate ⟨p, true⟩ = true := by simp [hsnoc]
    have hidle : Visit.holds e.gate ⟨{ p with admitted := rest.length }, true⟩ = false := by
      refine Visit.holds_eq_false.mpr ?_
      rw [hrest]
      exact husable.not_mem hsplit rfl
    exact (hbooks.settle hholds).add hidle
  case isFalse hn =>
    refine hbooks.replace ?_ rfl
    rw [hsnoc, beq_false_of_ne (Ne.symm hn), Bool.or_false]

/-- Each step keeps the books. -/
theorem Step.sound (hs : Step n x y) (k : Sound n x) : Sound n y := by
  cases hs with
  | build built => exact k.build built
  | ambient a => exact ⟨k.chains, k.visits, k.books⟩
  | found =>
    have hempty : Usable n x.plaza.gates.size (Chain.empty (ι := Serial)).entries :=
      ⟨by simp [Chain.empty], by simp [Chain.empty]⟩
    exact ⟨List.forall_mem_cons.mpr ⟨hempty, k.chains⟩, k.visits, k.books⟩
  | edit chains edited built once =>
    exact ⟨Lists.forall_mem_replaced (chains ▸ k.chains) ⟨built, once⟩, k.visits, k.books⟩
  | close chains => exact ⟨Lists.forall_mem_without (chains ▸ k.chains), k.visits, k.books⟩
  | @enter c found r =>
    refine ⟨k.chains, List.forall_mem_cons.mpr ⟨k.chains c found, k.visits⟩, fun g hg => ?_⟩
    have hbooks : Books n g ([] ++ x.visits) := k.books g hg
    exact hbooks.add rfl
  | ask visits next => exact k.ask visits next
  | retarget there passed u =>
    rw [show (Plaza.hooks.retarget _ _ u x.plaza).1 = x.plaza from Plaza.retarget_fst _ _ _ _]
    exact k
  | complete visits o => exact k.replaced visits rfl rfl fun _ => rfl
  | age visits nanos => exact k.replaced visits rfl rfl fun payer => token_age payer _ nanos
  | leave visits => exact k.replaced visits rfl rfl fun _ => rfl
  | tell visits last => exact k.tell visits last
  | gone visits told =>
    refine ⟨k.chains, Lists.forall_mem_without (visits ▸ k.visits), fun g hg => ?_⟩
    refine (visits ▸ k.books g hg).drop (Visit.holds_eq_false.mpr ?_)
    rw [told]
    exact List.not_mem_nil

/-- What can be reached is sound. -/
theorem Reached.sound (hx : Reached n x) : Sound n x := by
  induction hx with
  | refl =>
    refine ⟨List.forall_mem_nil _, List.forall_mem_nil _, fun g hg => ?_⟩
    cases hg
  | tail _ hs ih => exact hs.sound ih

/-- Take a limit on requests in flight that no chain has twice.  However requests enter chains, are
    asked about, completed and leave, and however chains are edited meanwhile: the limit counts for
    each token the requests that it has admitted, that have not ended, and that are charged to the
    token.  These are never more than its settings allow.  The total is the sum of the counts; the
    tokens listed are those of such requests, each listed once, and each such request has one; without
    such requests the limit is as new.  A request is admitted exactly when its token has room, and
    when it is not admitted, nothing is counted. -/
theorem slots_conserved (hx : Reached n x) {g : FlightLimit}
    (hg : x.plaza.gate? n = some (.flight g)) :
    (∀ token, g.connections.count token = held n g.payer x.visits token) ∧
    (∀ token, g.connections.count token ≤ g.settings.connections) ∧
    g.connections.total = (g.connections.counts.map (·.2)).sum ∧
    g.connections.tokens.Nodup ∧
    (∀ token, token ∈ g.connections.tokens ↔
      ∃ v ∈ x.visits, v.holds n = true ∧ g.payer.token v.pipeline.request = .ok token) ∧
    (∀ v ∈ x.visits, v.holds n = true → ∃ token ∈ g.connections.tokens,
      g.payer.token v.pipeline.request = .ok token) ∧
    ((∀ v ∈ x.visits, v.holds n = false) → g.connections = .make g.settings.connections) ∧
    ∀ r, ((x.plaza.screen n r).2 = .ok none ↔
        ∃ token, g.payer.token r = .ok token ∧
          g.connections.count token < g.settings.connections) ∧
      ((x.plaza.screen n r).2 ≠ .ok none → (x.plaza.screen n r).1.gate? n = x.plaza.gate? n) := by
  have k := hx.sound.books g hg
  have hlisted (token : String) : token ∈ g.connections.tokens ↔
      ∃ v ∈ x.visits, v.holds n = true ∧ g.payer.token v.pipeline.request = .ok token :=
    (k.counts.listed token).trans held_pos_iff
  refine ⟨k.counts.count_eq, fun token => ?_, k.counts.total_eq, k.counts.distinct, hlisted,
    fun v hv hholds => ?_, fun hidle => ?_, fun r => ⟨?_, fun hrefused => ?_⟩⟩
  · rw [k.counts.count_eq]
    exact k.bounded token
  · obtain ⟨token, htoken⟩ := k.charged v hv hholds
    exact ⟨token, (hlisted token).mpr ⟨v, hv, hholds, htoken⟩, htoken⟩
  · rw [← k.limit_eq]
    -- nothing is held of any token, and so nothing is counted
    refine k.counts.eq_make fun token => Nat.eq_zero_of_not_pos fun hpos => ?_
    obtain ⟨v, hv, hholds, -⟩ := held_pos_iff.mp hpos
    rw [hidle v hv] at hholds
    cases hholds
  · rw [Plaza.screen_flight hg]
    simp only [k.counts.count_eq]
    exact k.admits_iff r
  · rw [Plaza.screen_flight hg] at hrefused
    rw [Plaza.gate?_screen, hg, Option.map_some, if_pos rfl, Instance.screened,
      k.screen_of_refused hrefused]

/-- A limit of one request for each host, with what it counts. -/
def narrow (c : Connections) : FlightLimit where
  settings := { payer := "request.host", connections := 1 }
  payer := .requestHost
  connections := c

/-- A chain of one gate. -/
def lane : Chain Serial := ⟨[⟨"a", 0, "connlimit", 0⟩]⟩

theorem edit_lane : Chain.empty.Edit lane := by
  have hlane : Chain.empty.upsert (⟨"a", 0, "connlimit", 0⟩ : Entry Serial) = lane := by
    simp [Chain.upsert, Chain.get?, Chain.empty, Chain.ofEntries, lane]
  exact hlane ▸ .upsert _

/-- A request for a host. -/
def sent : Request := { uri := { authority := some "a.com", path := "/" } }

/-- Two requests for one host, of which the second one has been turned away. -/
def crowded : Concourse where
  plaza :=
    { toAmbient := Ambient.count {} (.rejected "conn_limit")
      gates := #[.flight (narrow ⟨1, [("a.com", 1)], 1⟩)] }
  chains := [lane]
  visits :=
    [⟨{ entries := lane.entries, request := sent, outcome := some (.status 429) }, false⟩,
      ⟨{ entries := lane.entries, request := sent, admitted := 1 }, false⟩]

/-- A limit is built and put into a chain, and two requests come and are asked about. -/
theorem reached_crowded : Reached 0 crowded := by
  have hmade : Kind.flight.make (narrow (.make 1)).settings.json 0 =
      .ok (.flight (narrow (.make 1))) := rfl
  have hbuilt : Step 0 {} { plaza := { gates := #[.flight (narrow (.make 1))] } } := .build hmade
  have hedited : Step 0
      { plaza := { gates := #[.flight (narrow (.make 1))] }, chains := [.empty] }
      { plaza := { gates := #[.flight (narrow (.make 1))] }, chains := [] ++ lane :: [] } :=
    .edit rfl edit_lane (by decide) (by decide)
  have hfirst : Step 0
      { plaza := { gates := #[.flight (narrow (.make 1))] }, chains := [lane]
        visits := [] ++ ⟨.enter lane sent, false⟩ :: [] }
      { plaza := { gates := #[.flight (narrow ⟨1, [("a.com", 1)], 1⟩)] }, chains := [lane]
        visits := [] ++ ⟨{ entries := lane.entries, request := sent, admitted := 1 }, false⟩ :: [] } :=
    @Step.ask 0 _ [] [] (.enter lane sent) _ [] rfl rfl
  have hsecond : Step 0
      { plaza := { gates := #[.flight (narrow ⟨1, [("a.com", 1)], 1⟩)] }, chains := [lane]
        visits := [] ++ ⟨.enter lane sent, false⟩ ::
          [⟨{ entries := lane.entries, request := sent, admitted := 1 }, false⟩] }
      crowded :=
    @Step.ask 0 _ [] _ (.enter lane sent) _ [] rfl rfl
  exact .tail (.tail (.tail (.tail (.tail (.tail (.single hbuilt) .found) hedited)
    (.enter (List.mem_singleton_self _) sent)) hfirst) (.enter (List.mem_singleton_self _) sent)) hsecond

/-- The limit counts the first of the two requests, and another one would change nothing. -/
theorem slots_conserved_crowded : Reached 0 crowded ∧
    crowded.plaza.gate? 0 = some (.flight (narrow ⟨1, [("a.com", 1)], 1⟩)) ∧
    held 0 .requestHost crowded.visits "a.com" = 1 ∧
    (crowded.plaza.screen 0 sent).2 ≠ .ok none ∧
    (crowded.plaza.screen 0 sent).1.gate? 0 = crowded.plaza.gate? 0 := by
  obtain ⟨hcount, -, -, -, -, -, -, hscreen⟩ := slots_conserved reached_crowded rfl
  obtain ⟨hadmits, hrefused⟩ := hscreen sent
  have hfull : (crowded.plaza.screen 0 sent).2 ≠ .ok none := by
    intro h
    obtain ⟨token, htoken, hroom⟩ := hadmits.mp h
    cases htoken
    exact absurd hroom (by decide +kernel)
  exact ⟨reached_crowded, rfl, (hcount "a.com").symm, hfull, hrefused hfull⟩

end Concourse

end Turnpike.Gate
